import SourceSplice.Scanner
/-!
# Expansion

What a scan gives, said by recursion over the tree of includes: the lines of a file in order, with
the expansion of the included file in the place of every include. No stack of open files and no
state is carried along, only the paths on the way from the root down to the file.
-/

namespace SourceSplice.Expansion

/-- Items followed by further ones; nothing follows an error. -/
def followedBy : List ScanItem → List ScanItem → List ScanItem
  | [], ys => ys
  | .ok e :: xs, ys => .ok e :: followedBy xs ys
  | .error e :: _, _ => [.error e]

/-- The expansion of the rest of a file, of which `linesRead` lines are behind. `path` is the file
itself and `above` are the files on the way down to it. -/
def rest (files : FileSystem) (options : ScanOptions) (path : String) (above : List String)
    (linesRead : Nat) : List (Except Fault String) → List ScanItem
  | [] => []
  | .error fault :: _ => [.error (.cannotRead path linesRead fault)]
  | .ok text :: pending =>
    let site : Site := ⟨path, linesRead + 1⟩
    match Directive.parse text with
    | .ok .plain =>
      .ok (.line text (linesRead + 1)) :: rest files options path above (linesRead + 1) pending
    | .error cause => [.error (.malformed site text cause)]
    | .ok (.inclusion target) =>
      if options.detectCycles ∧ target ∈ path :: above then [.error (.cycle target site)]
      else if _ : options.maxIncludeDepth < (path :: above).length then
        [.error (.tooDeep target site options.maxIncludeDepth)]
      else
        match files.outcomes target with
        | .error fault => [.error (.cannotOpen target (some site) fault)]
        | .ok lines =>
          .ok (.fileChange target)
            :: followedBy (rest files options target (path :: above) 0 lines)
              (.ok (.fileChange path)
                :: rest files options path above (linesRead + 1) pending)
termination_by pending => (options.maxIncludeDepth + 1 - above.length, pending.length)
decreasing_by
  · exact Prod.Lex.right _ (by simp)
  · have deep := ‹¬options.maxIncludeDepth < (path :: above).length›
    simp only [List.length_cons] at deep
    exact Prod.Lex.left _ _ (by simp only [List.length_cons]; omega)
  · exact Prod.Lex.right _ (by simp)

/-- The expansion of a root file with these lines. -/
def ofRoot (files : FileSystem) (options : ScanOptions) (root : String)
    (lines : List (Except Fault String)) : List ScanItem :=
  .ok (.fileChange root) :: rest files options root [] 0 lines

end SourceSplice.Expansion
