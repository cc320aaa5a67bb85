import SourceSplice.FileSystem.Tree
/-!
# Reading a file that changes

A cursor reads what stands at a place of a tree line by line, from the tree as it is when a line is
asked for. It reads pieces of a fixed size and keeps them until they are handed out, so a change
of the file shows only behind the piece that was read last. At the end of the file, or after an
error, the cursor has ended and the file is closed: what is written later is not seen any more.
-/

namespace SourceSplice

/-- A position in a file that is being read. -/
structure Cursor where
  place : Place
  /-- The number under which the process holds the file open. -/
  number : Nat := 0
  position : Nat := 0
  /-- The bytes that were read but not handed out yet. -/
  buffered : List UInt8 := []
  ended : Bool := false
  deriving DecidableEq

namespace Cursor

/-- A cursor at the start of what a path leads to; it has ended if the path does not open. -/
def atStart (t : FileTree) (path : String) : Cursor :=
  match t.findOpened path with
  | .ok (place, _) => { place, number := t.freeNumber }
  | .error _ => { place := [], ended := true }

/-- A tree in which the files of cursors are held open. -/
def hold (t : FileTree) (cursors : List Cursor) : FileTree :=
  cursors.foldl (fun t c => if c.ended then t else t.hold c.number c.place) t

/-- The number of bytes that are read at once. -/
def pieceSize : Nat := 8192

/-- The bytes of the next line with its line feed, or what is left if there is none, and the
cursor behind them. -/
def cutLine (content : ByteArray) (c : Cursor) : List UInt8 × Cursor :=
  let before := c.buffered.takeWhile (· != lineFeed)
  match c.buffered.dropWhile (· != lineFeed) with
  | _ :: after => (before ++ [lineFeed], { c with buffered := after })
  | [] =>
    if _ : c.position < content.size then
      let position := min (c.position + pieceSize) content.size
      let buffered := (content.extract c.position position).data.toList
      let (more, c) := cutLine content { c with position, buffered }
      (before ++ more, c)
    else (before, { c with buffered := [] })
termination_by content.size - c.position
decreasing_by simp only [pieceSize]; omega

/-- The next line, or the error that ends the file, or nothing at its end. -/
def next (t : FileTree) (c : Cursor) : Option (Except Fault String) × Cursor :=
  if c.ended then (none, c)
  else
    match t.entry? c.place with
    | some .directory => (some (.error (.system .isADirectory)), { c with ended := true })
    | some (.file content) =>
      match c.cutLine content with
      | ([], c) => (none, { c with ended := true })
      | (line, c) =>
        match Reader.decodeLine line with
        | .ok text => (some (.ok text), c)
        | .error fault => (some (.error fault), { c with ended := true })
    | _ => (none, { c with ended := true })

end Cursor

end SourceSplice
