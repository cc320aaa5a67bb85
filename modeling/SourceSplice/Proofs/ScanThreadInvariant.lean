import SourceSplice.Proofs.NetworkInvariant
import SourceSplice.Proofs.ScanThreadSteps
/-!
# How the threads of a scan stand to each other

`Wired` says how the channels of a scan agree with the threads on them, and `Attended` how far the
scanning thread is at each place of the consumer. Every step keeps both. So whoever waits waits for
a thread that can go on: a consumer in the middle of a call never waits in vain.
-/

namespace SourceSplice.Proofs
open Scanner

/-- The channel of an open file agrees with its thread. -/
structure FileWired (f : OpenFile) : Prop where
  slot : ∀ x, f.out.slot = some x → f.position = .settling x
  closed : f.out.closed = true ↔ f.position = .ended

/-- The file that was opened and has no thread yet. -/
def entered : ScannerAt → List OpenFile
  | .entering file => [file]
  | _ => []

/-- The files that are open or being opened. -/
def held (t : Threads) : List OpenFile :=
  entered t.scanning ++ t.stack

/-- There is a current file at this place of the scanning thread, or one that is given up. -/
def hasFile : ScannerAt → Bool
  | .entering _ | .leaving | .ended => false
  | _ => true

/-- The channels of a scan agree with the threads on them. -/
structure Wired (t : Threads) : Prop where
  files : ∀ f ∈ held t, FileWired f
  slot : ∀ x, t.out.slot = some x → t.scanning = .settling x
  closed : t.out.closed = true ↔ t.scanning = .ended
  nonempty : hasFile t.scanning = true → t.stack ≠ []
  joining : t.scanning = .joining → ∀ f, t.stack.head? = some f → f.position = .ended
  awaiting : t.scanning = .awaiting → ∀ f, t.stack.getLast? = some f → f.out.cancelled = true
  ended : t.scanning = .ended → t.stack = []

/-- The consumer is where the scanning thread lets it be. -/
structure Attended (t : Threads) : Prop where
  /-- While the scan is being started the scanning thread gets no further than its first item. -/
  starting : t.consumer = .starting → t.out.cancelled = false ∧
    (entered t.scanning ≠ [] ∨ (∃ x, t.scanning = .offering x) ∨
      (∃ x, t.scanning = .settling x) ∧ t.out.slot.isSome = true)
  /-- Afterwards a file is opened only in another one. -/
  entering : entered t.scanning ≠ [] → t.consumer = .starting ∨ t.stack ≠ []
  cancelled : t.consumer = .awaiting → t.out.cancelled = true
  ended : t.consumer = .joining ∨ t.consumer = .gone ∨ t.exhausted = true ∨ none ∈ t.seen →
    t.scanning = .ended

variable {f g : OpenFile} {t u : Threads}

section Files

lemma FileWired.slot_eq_none (h : FileWired f) (hidle : ∀ x, f.position ≠ .settling x) :
    f.out.slot = none := by
  cases hslot : f.out.slot with
  | none => rfl
  | some x => exact absurd (h.slot x hslot) (hidle x)

lemma FileWired.goTo (h : FileWired f) (hout : g.out = f.out)
    (hidle : ∀ x, f.position ≠ .settling x) (hrun : f.position ≠ .ended)
    (hrun' : g.position ≠ .ended) : FileWired g := by
  refine ⟨fun x hx => ?_, ?_⟩
  · rw [hout, h.slot_eq_none hidle] at hx
    cases hx
  · rw [hout, h.closed]
    exact ⟨fun he => absurd he hrun, fun he => absurd he hrun'⟩

/-- Taking the item out of a channel does not concern its thread, and neither does cancelling. -/
lemma FileWired.congr (h : FileWired f) (hpos : g.position = f.position)
    (hslot : g.out.slot = f.out.slot ∨ g.out.slot = none) (hclosed : g.out.closed = f.out.closed) :
    FileWired g := by
  refine ⟨fun x hx => ?_, ?_⟩
  · rcases hslot with hs | hs
    · rw [hpos]
      exact h.slot x (hs.symm.trans hx)
    · cases hs.symm.trans hx
  · rw [hclosed, hpos]
    exact h.closed

lemma FileMove.wired (hmove : FileMove f g) (h : FileWired f) : FileWired g := by
  cases hmove with
  | read x pending hpos _ => exact h.goTo rfl (by simp [hpos]) (by simp [hpos]) nofun
  | atEnd hpos => exact h.goTo rfl (by simp [hpos]) (by simp [hpos]) nofun
  | put x hpos =>
    refine ⟨fun y hy => congrArg _ (Option.some.inj hy), ?_⟩
    change f.out.closed = true ↔ _
    rw [h.closed, hpos]
    exact ⟨nofun, nofun⟩
  | refused x hpos => exact h.goTo rfl (by simp [hpos]) (by simp [hpos]) nofun
  | settled x p hpos hp =>
    refine ⟨nofun, ?_⟩
    change f.out.closed = true ↔ p = .ended
    rw [h.closed, hpos]
    refine ⟨nofun, fun he => ?_⟩
    rcases hp with rfl | rfl <;> cases he
  | checked p hpos hp =>
    refine h.goTo rfl (by simp [hpos]) (by simp [hpos]) fun he => ?_
    rcases hp with rfl | rfl <;> cases he
  | closed hpos =>
    refine ⟨fun x hx => ?_, fun _ => rfl, fun _ => rfl⟩
    rw [Channel.close, h.slot_eq_none (by simp [hpos])] at hx
    cases hx

lemma FileMove.cancelled_eq (hmove : FileMove f g) : g.out.cancelled = f.out.cancelled := by
  cases hmove <;> rfl

lemma FileMove.not_ended (hmove : FileMove f g) : f.position ≠ .ended := by
  cases hmove <;> simp_all

lemma fileStep_of_free (hgo : f.out.senderWaits = false) (hrun : f.position ≠ .ended) :
    (∃ g, OpenFile.Step f g) ∨ f.position = .leaving := by
  cases hpos : f.position with
  | reading => exact .inl ⟨_, .read f hpos⟩
  | offering x => exact .inl ⟨_, .offer f x hpos hgo⟩
  | settling x => exact .inl ⟨_, .settle f x hpos hgo⟩
  | checking => exact .inl ⟨_, .check f hpos⟩
  | leaving => exact .inr rfl
  | closing => exact .inl ⟨_, .close f hpos⟩
  | ended => exact absurd hpos hrun

end Files

section Scanning

lemma Wired.slot_eq_none (h : Wired t) (hidle : ∀ x, t.scanning ≠ .settling x) :
    t.out.slot = none := by
  cases hslot : t.out.slot with
  | none => rfl
  | some x => exact absurd (h.slot x hslot) (hidle x)

lemma Wired.stack_wired (h : Wired t) : ∀ f ∈ t.stack, FileWired f :=
  fun f hf => h.files f (List.mem_append_right _ hf)

/-- The places at which the scanning thread waits for the end of no thread and is not at its own
end. -/
def underWay : ScannerAt → Bool
  | .joining | .awaiting | .ended => false
  | _ => true

lemma Wired.goTo (h : Wired t) (hout : u.out = t.out) (hfiles : ∀ f ∈ held u, FileWired f)
    (hidle : ∀ x, t.scanning ≠ .settling x) (hrun : t.scanning ≠ .ended)
    (hplace : underWay u.scanning = true) (hfile : hasFile u.scanning = true → u.stack ≠ []) :
    Wired u := by
  refine ⟨hfiles, fun x hx => ?_, ?_, hfile, fun he => ?_, fun he => ?_, fun he => ?_⟩
  · rw [hout, h.slot_eq_none hidle] at hx
    cases hx
  · rw [hout, h.closed]
    refine ⟨fun he => absurd he hrun, fun he => ?_⟩
    rw [he] at hplace
    cases hplace
  · rw [he] at hplace
    cases hplace
  · rw [he] at hplace
    cases hplace
  · rw [he] at hplace
    cases hplace

lemma Wired.taken (h : Wired t) {top top' : OpenFile} {below : List OpenFile}
    (hs : t.stack = top :: below) (hpos : top'.position = top.position)
    (hout : top'.out = { top.out with slot := none }) : ∀ f ∈ top' :: below, FileWired f := by
  intro f hf
  have hstack := h.stack_wired
  rw [hs] at hstack
  rcases List.mem_cons.mp hf with rfl | hf
  · exact (hstack top List.mem_cons_self).congr hpos (.inr (by rw [hout])) (by rw [hout])
  · exact hstack f (List.mem_cons_of_mem _ hf)

lemma ScanMove.wired (hmove : ScanMove t u) (h : Wired t) : Wired u := by
  have hstack := h.stack_wired
  cases hmove with
  | checked p hpos hp =>
    have hfile := h.nonempty (by rw [hpos]; rfl)
    rcases hp with rfl | rfl
    · exact h.goTo rfl hstack (by simp [hpos]) (by simp [hpos]) rfl nofun
    · exact h.goTo rfl hstack (by simp [hpos]) (by simp [hpos]) rfl fun _ => hfile
  | drawn top below text hpos hs _ =>
    exact h.goTo rfl (h.taken hs rfl rfl) (by simp [hpos]) (by simp [hpos]) rfl nofun
  | failed top below fault e hpos hs _ =>
    exact h.goTo rfl (h.taken hs rfl rfl) (by simp [hpos]) (by simp [hpos]) rfl nofun
  | met top below hpos hs hclosed =>
    have hopen := h.slot_eq_none (by simp [hpos])
    refine ⟨hstack, fun x hx => ?_, ?_, fun _ => ?_, fun _ f hf => ?_, nofun, nofun⟩
    · cases hopen.symm.trans hx
    · change t.out.closed = true ↔ _
      rw [h.closed, hpos]
      exact ⟨nofun, nofun⟩
    · change t.stack ≠ []
      rw [hs]
      nofun
    · change t.stack.head? = some f at hf
      rw [hs] at hf hstack
      obtain rfl : top = f := Option.some.inj hf
      exact (hstack top List.mem_cons_self).closed.mp hclosed
  | returned top below p hpos hs _ hp =>
    rw [hs] at hstack
    have hbelow : ∀ f ∈ below, FileWired f := fun f hf => hstack f (List.mem_cons_of_mem _ hf)
    rcases hp with rfl | ⟨hne, x, rfl⟩
    · exact h.goTo rfl hbelow (by simp [hpos]) (by simp [hpos]) rfl nofun
    · exact h.goTo rfl hbelow (by simp [hpos]) (by simp [hpos]) rfl fun _ => hne
  | acted text x hpos =>
    have hfile := h.nonempty (by rw [hpos]; rfl)
    exact h.goTo rfl hstack (by simp [hpos]) (by simp [hpos]) rfl fun _ => hfile
  | opened text path inner hpos _ _ =>
    refine h.goTo rfl ?_ (by simp [hpos]) (by simp [hpos]) rfl nofun
    intro f hf
    rcases List.mem_cons.mp hf with rfl | hf
    · exact ⟨nofun, nofun, nofun⟩
    · exact hstack f hf
  | entered file x hpos =>
    refine h.goTo rfl ?_ (by simp [hpos]) (by simp [hpos]) rfl nofun
    have hfiles := h.files
    rw [held, hpos] at hfiles
    exact hfiles
  | put x hpos =>
    have hfile := h.nonempty (by rw [hpos]; rfl)
    refine ⟨hstack, fun y hy => congrArg _ (Option.some.inj hy), ?_, fun _ => hfile, nofun, nofun,
      nofun⟩
    change t.out.closed = true ↔ _
    rw [h.closed, hpos]
    exact ⟨nofun, nofun⟩
  | refused x hpos _ => exact h.goTo rfl hstack (by simp [hpos]) (by simp [hpos]) rfl nofun
  | settled x p hpos _ hp =>
    have hfile := h.nonempty (by rw [hpos]; rfl)
    have hclosed : t.out.closed = false := by
      rw [← Bool.not_eq_true, h.closed, hpos]
      nofun
    rcases hp with rfl | rfl
    · refine ⟨hstack, nofun, ?_, nofun, nofun, nofun, nofun⟩
      simp [hclosed]
    · refine ⟨hstack, nofun, ?_, fun _ => hfile, nofun, nofun, nofun⟩
      simp [hclosed]
  | gaveUp above file hpos hs =>
    have hopen := h.slot_eq_none (by simp [hpos])
    refine ⟨fun f hf => ?_, fun x hx => ?_, ?_, fun _ => ?_, nofun, fun _ f hf => ?_, nofun⟩
    · change f ∈ above ++ _ at hf
      rw [hs] at hstack
      rcases List.mem_append.mp hf with hf | hf
      · exact hstack f (List.mem_append_left _ hf)
      · obtain rfl := List.mem_singleton.mp hf
        exact (hstack file (by simp)).congr rfl (.inl rfl) rfl
    · cases hopen.symm.trans hx
    · change t.out.closed = true ↔ _
      rw [h.closed, hpos]
      exact ⟨nofun, nofun⟩
    · exact List.append_ne_nil_of_right_ne_nil above nofun
    · rw [List.getLast?_concat] at hf
      cases hf
      rfl
  | awaited above file hpos hs _ =>
    rw [hs] at hstack
    exact h.goTo rfl (fun f hf => hstack f (List.mem_append_left _ hf)) (by simp [hpos])
      (by simp [hpos]) rfl nofun
  | closed hpos hs =>
    have hopen := h.slot_eq_none (by simp [hpos])
    refine ⟨hstack, fun x hx => ?_, ⟨fun _ => rfl, fun _ => rfl⟩, nofun, nofun, nofun, fun _ => hs⟩
    cases hopen.symm.trans hx

lemma ScanMove.not_ended (hmove : ScanMove t u) : t.scanning ≠ .ended := by
  cases hmove <;> simp_all

lemma ScanMove.frame (hmove : ScanMove t u) : u.consumer = t.consumer ∧
    u.exhausted = t.exhausted ∧ u.seen = t.seen ∧ u.out.cancelled = t.out.cancelled := by
  cases hmove <;> exact ⟨rfl, rfl, rfl, rfl⟩

lemma ScanMove.attended (hmove : ScanMove t u) (h : Wired t) (ha : Attended t) : Attended u := by
  obtain ⟨hconsumer, hexhausted, hseen, hcancelled⟩ := hmove.frame
  refine ⟨fun hpos => ?_, fun hin => ?_, fun hpos => ?_, fun hover => ?_⟩
  · rw [hconsumer] at hpos
    obtain ⟨hopen, hplace⟩ := ha.starting hpos
    refine ⟨hcancelled.trans hopen, ?_⟩
    cases hmove with
    | entered file x _ => exact .inr (.inl ⟨x, rfl⟩)
    | put x _ => exact .inr (.inr ⟨⟨x, rfl⟩, rfl⟩)
    | refused x _ hcan => cases hopen.symm.trans hcan
    | settled x p hp hgo _ =>
      -- before the consumer draws, the first item stays where it is
      have hslot : t.out.slot.isSome = true := by
        rcases hplace with hin | ⟨y, hy⟩ | ⟨-, hslot⟩
        · rw [hp] at hin
          exact absurd rfl hin
        · cases hp.symm.trans hy
        · exact hslot
      rw [Channel.senderWaits, hslot, hopen] at hgo
      cases hgo
    | _ =>
      exfalso
      simp_all [Proofs.entered]
  · rw [hconsumer]
    cases hmove with
    | opened text path inner hpos _ _ => exact .inr (h.nonempty (by rw [hpos]; rfl))
    | checked p _ hp => rcases hp with rfl | rfl <;> exact absurd rfl hin
    | returned _ _ p _ _ _ hp => rcases hp with rfl | ⟨-, x, rfl⟩ <;> exact absurd rfl hin
    | settled _ p _ _ hp => rcases hp with rfl | rfl <;> exact absurd rfl hin
    | _ => exact absurd rfl hin
  · rw [hconsumer] at hpos
    exact hcancelled.trans (ha.cancelled hpos)
  · rw [hconsumer, hexhausted, hseen] at hover
    exact absurd (ha.ended hover) hmove.not_ended

end Scanning

section Consumer

lemma Wired.congr (h : Wired t) (hstack : u.stack = t.stack) (hpos : u.scanning = t.scanning)
    (hslot : u.out.slot = t.out.slot ∨ u.out.slot = none)
    (hclosed : u.out.closed = t.out.closed) : Wired u := by
  refine ⟨?_, fun x hx => ?_, ?_, ?_, ?_, ?_, ?_⟩
  · rw [held, hstack, hpos]
    exact h.files
  · rcases hslot with hs | hs
    · rw [hpos]
      exact h.slot x (hs.symm.trans hx)
    · cases hs.symm.trans hx
  · rw [hclosed, hpos]
    exact h.closed
  · rw [hstack, hpos]
    exact h.nonempty
  · rw [hstack, hpos]
    exact h.joining
  · rw [hstack, hpos]
    exact h.awaiting
  · rw [hstack, hpos]
    exact h.ended

lemma Wired.replace (h : Wired t) {above below : List OpenFile}
    (hs : t.stack = above ++ f :: below) (hs' : u.stack = above ++ g :: below)
    (hpos : u.scanning = t.scanning) (hout : u.out = t.out) (hg : FileWired g)
    (hcancelled : g.out.cancelled = f.out.cancelled) (hrun : f.position ≠ .ended) : Wired u := by
  refine ⟨fun k hk => ?_, ?_, ?_, fun _ => ?_, fun hp k hk => ?_, fun hp k hk => ?_, fun hp => ?_⟩
  · have hfiles := h.files
    simp only [held, hpos, hs, hs', List.mem_append, List.mem_cons] at hk hfiles
    rcases hk with hk | hk | rfl | hk
    · exact hfiles k (.inl hk)
    · exact hfiles k (.inr (.inl hk))
    · exact hg
    · exact hfiles k (.inr (.inr (.inr hk)))
  · rw [hout, hpos]
    exact h.slot
  · rw [hout, hpos]
    exact h.closed
  · rw [hs']
    exact List.append_ne_nil_of_right_ne_nil above nofun
  · have hhead := h.joining (hpos ▸ hp)
    rw [hs] at hhead
    rw [hs'] at hk
    cases above with
    | nil => exact absurd (hhead f rfl) hrun
    | cons top above => exact hhead k hk
  · have hlast := h.awaiting (hpos ▸ hp)
    rw [hs] at hlast
    rw [hs'] at hk
    rcases List.eq_nil_or_concat below with rfl | ⟨init, last, rfl⟩
    · rw [List.getLast?_concat] at hk hlast
      obtain rfl : g = k := Option.some.inj hk
      exact hcancelled.trans (hlast f rfl)
    · refine hlast k ?_
      rw [← hk]
      simp only [List.concat_eq_append, ← List.cons_append, ← List.append_assoc,
        List.getLast?_concat]
  · have hempty := h.ended (hpos ▸ hp)
    rw [hs] at hempty
    exact absurd hempty (List.append_ne_nil_of_right_ne_nil above nofun)

lemma wired_step (h : Wired t) (ha : Attended t) (hstep : Threads.Step t u) : Wired u := by
  cases hstep with
  | scan hscan => exact (scanMove_of_step hscan).wired h
  | file above below hs hfile =>
    have hmove := fileMove_of_step hfile
    have hf := h.stack_wired _ (hs ▸ List.mem_append_right above List.mem_cons_self)
    exact h.replace hs rfl rfl rfl (hmove.wired hf) hmove.cancelled_eq hmove.not_ended
  | release above below f hs hpos =>
    have hf := h.stack_wired f (hs ▸ List.mem_append_right above List.mem_cons_self)
    have hrun : f.position ≠ .ended := by
      rw [hpos]
      nofun
    exact h.replace hs rfl rfl rfl (hf.goTo rfl (by simp [hpos]) hrun nofun) rfl hrun
  | notEntered file fault hpos hstarted =>
    have hne := (ha.entering (by rw [hpos]; nofun)).resolve_left hstarted
    exact h.goTo rfl h.stack_wired (by simp [hpos]) (by simp [hpos]) rfl fun _ => hne
  | rootNotEntered file hpos _ =>
    have hgone : Wired { t with scanning := .leaving } :=
      h.goTo rfl h.stack_wired (by simp [hpos]) (by simp [hpos]) rfl nofun
    exact hgone.congr rfl rfl (.inl rfl) rfl
  | notStarted x hpos _ =>
    have hgone : Wired { t with scanning := .leaving } :=
      h.goTo rfl h.stack_wired (by simp [hpos]) (by simp [hpos]) rfl nofun
    exact hgone.congr rfl rfl (.inl rfl) rfl
  | take x out _ _ htake =>
    obtain ⟨-, rfl⟩ := take_ok htake
    exact h.congr rfl rfl (.inr rfl) rfl
  | _ => exact h.congr rfl rfl (.inl rfl) rfl

lemma Attended.goTo (ha : Attended t) (hstack : u.stack = t.stack)
    (hpos : u.scanning = t.scanning) (hstarted : t.consumer ≠ .starting)
    (hstarted' : u.consumer ≠ .starting)
    (hcancelled : u.consumer = .awaiting → u.out.cancelled = true)
    (hended : u.consumer = .joining ∨ u.consumer = .gone ∨ u.exhausted = true ∨ none ∈ u.seen →
      t.scanning = .ended) : Attended u := by
  refine ⟨fun hp => absurd hp hstarted', fun hin => .inr ?_, hcancelled, fun hover => ?_⟩
  · rw [hpos] at hin
    rw [hstack]
    exact (ha.entering hin).resolve_left hstarted
  · rw [hpos]
    exact hended hover

lemma attended_step (h : Wired t) (ha : Attended t) (hstep : Threads.Step t u) : Attended u := by
  have hmet : t.exhausted = true ∨ none ∈ t.seen → t.scanning = .ended :=
    fun hover => ha.ended (.inr (.inr hover))
  cases hstep with
  | scan hscan => exact (scanMove_of_step hscan).attended h ha
  | file above below hs _ =>
    refine ⟨ha.starting, fun _ => .inr ?_, ha.cancelled, ha.ended⟩
    exact List.append_ne_nil_of_right_ne_nil above nofun
  | release above below f hs _ =>
    refine ⟨ha.starting, fun _ => .inr ?_, ha.cancelled, ha.ended⟩
    exact List.append_ne_nil_of_right_ne_nil above nofun
  | notEntered file fault hpos hstarted =>
    refine ⟨fun hp => absurd hp hstarted, nofun, ha.cancelled, fun hover => ?_⟩
    cases hpos.symm.trans (ha.ended hover)
  | rootNotEntered file hpos _ =>
    refine ⟨nofun, nofun, fun _ => rfl, fun hover => ?_⟩
    simp only [Threads.abandon, reduceCtorEq, false_or] at hover
    cases hpos.symm.trans (hmet hover)
  | notStarted x hpos _ =>
    refine ⟨nofun, nofun, fun _ => rfl, fun hover => ?_⟩
    simp only [Threads.abandon, reduceCtorEq, false_or] at hover
    cases hpos.symm.trans (hmet hover)
  | started hpos hne =>
    refine ⟨nofun, fun _ => .inr hne, nofun, fun hover => hmet ?_⟩
    simpa only [reduceCtorEq, false_or] using hover
  | beginNext hpos _ =>
    refine ha.goTo rfl rfl (by simp [hpos]) nofun nofun fun hover => hmet ?_
    simpa only [reduceCtorEq, false_or] using hover
  | nextAtEnd hpos hex =>
    exact ha.goTo rfl rfl (by simp [hpos]) (by simp [hpos]) (by simp [hpos]) fun _ => hmet (.inl hex)
  | take x out hpos _ htake =>
    refine ha.goTo rfl rfl (by simp [hpos]) nofun nofun fun hover => hmet ?_
    simpa using hover
  | meetEnd e out hpos hgo htake =>
    have hclosed := (take_error htake hgo).2
    exact ha.goTo rfl rfl (by simp [hpos]) nofun nofun fun _ => h.closed.mp hclosed
  | join hpos hended => exact ha.goTo rfl rfl (by simp [hpos]) nofun nofun fun _ => hended
  | letGo hpos =>
    refine ha.goTo rfl rfl (by simp [hpos]) nofun (fun _ => rfl) fun hover => hmet ?_
    simpa only [reduceCtorEq, false_or] using hover
  | await hpos hended => exact ha.goTo rfl rfl (by simp [hpos]) nofun nofun fun _ => hended

lemma wired_start {files : FileSystem} {options : ScanOptions} {root : String} {before n : Nat}
    (h : Threads.start files options root before = (.ok t, n)) : Wired t ∧ Attended t := by
  obtain ⟨pending, -, rfl⟩ := start_ok h
  refine ⟨⟨?_, nofun, ⟨nofun, nofun⟩, nofun, nofun, nofun, nofun⟩,
    ⟨fun _ => ⟨rfl, .inl nofun⟩, fun _ => .inl rfl, nofun, ?_⟩⟩
  · intro f hf
    obtain rfl := List.mem_singleton.mp hf
    exact ⟨nofun, nofun, nofun⟩
  · simp

lemma wired_reaches (h : Wired t ∧ Attended t) (hrun : Threads.Reaches t u) :
    Wired u ∧ Attended u := by
  induction hrun with
  | refl => exact h
  | step _ hstep ih => exact ⟨wired_step ih.1 ih.2 hstep, attended_step ih.1 ih.2 hstep⟩

end Consumer

section Progress

lemma exists_step_of_file {above below : List OpenFile} (hs : t.stack = above ++ f :: below)
    (hgo : f.out.senderWaits = false) (hrun : f.position ≠ .ended) : ∃ u, Threads.Step t u := by
  rcases fileStep_of_free hgo hrun with ⟨g, hfile⟩ | hpos
  · exact ⟨_, .file t above below hs hfile⟩
  · exact ⟨_, .release t above below f hs hpos⟩

lemma Wired.progress (h : Wired t) :
    (∃ u, Threads.Step t u) ∨ t.scanning = .ended ∨
      (∃ x, t.out.slot = some x) ∧ t.out.cancelled = false := by
  cases hpos : t.scanning with
  | checking => exact .inl ⟨_, .scan (.check t hpos)⟩
  | drawing =>
    have hfile := h.nonempty (by rw [hpos]; rfl)
    obtain ⟨top, below, hs⟩ := List.exists_cons_of_ne_nil hfile
    by_cases hgo : top.out.receiverWaits = false
    · exact .inl ⟨_, .scan (.draw t top below hpos hs hgo)⟩
    · -- the thread of the current file has put nothing into its channel, so it can go on
      rw [receiverWaits_eq_false_iff, not_or] at hgo
      have hfree : top.out.senderWaits = false := by
        rw [senderWaits_eq_false_iff]
        exact .inl (by simpa using hgo.1)
      have hrun : top.position ≠ .ended := by
        intro hended
        have htop := h.stack_wired top (hs ▸ List.mem_cons_self)
        exact hgo.2 (htop.closed.mpr hended)
      have hs' : t.stack = [] ++ top :: below := hs
      exact .inl (exists_step_of_file hs' hfree hrun)
  | joining =>
    have hfile := h.nonempty (by rw [hpos]; rfl)
    obtain ⟨top, below, hs⟩ := List.exists_cons_of_ne_nil hfile
    have hended := h.joining hpos top (by rw [hs]; rfl)
    exact .inl ⟨_, .scan (.join t top below hpos hs hended)⟩
  | acting text =>
    have hfile := h.nonempty (by rw [hpos]; rfl)
    obtain ⟨top, below, hs⟩ := List.exists_cons_of_ne_nil hfile
    exact .inl ⟨_, .scan (.act t text top below hpos hs)⟩
  | entering file => exact .inl ⟨_, .scan (.enter t file hpos)⟩
  | offering x =>
    have hgo : t.out.senderWaits = false := by
      rw [senderWaits_eq_false_iff]
      exact .inl (h.slot_eq_none (by simp [hpos]))
    exact .inl ⟨_, .scan (.offer t x hpos hgo)⟩
  | settling x =>
    by_cases hgo : t.out.senderWaits = false
    · exact .inl ⟨_, .scan (.settle t x hpos hgo)⟩
    · rw [senderWaits_eq_false_iff, not_or] at hgo
      exact .inr (.inr ⟨Option.ne_none_iff_exists'.mp hgo.1, by simpa using hgo.2⟩)
  | leaving =>
    rcases List.eq_nil_or_concat t.stack with hs | ⟨above, file, hs⟩
    · exact .inl ⟨_, .scan (.close t hpos hs)⟩
    · rw [List.concat_eq_append] at hs
      exact .inl ⟨_, .scan (.giveUp t above file hpos hs)⟩
  | awaiting =>
    have hfile := h.nonempty (by rw [hpos]; rfl)
    obtain ⟨above, file, hs⟩ := List.eq_nil_or_concat t.stack |>.resolve_left hfile
    rw [List.concat_eq_append] at hs
    by_cases hended : file.position = .ended
    · exact .inl ⟨_, .scan (.await t above file hpos hs hended)⟩
    · have hfree : file.out.senderWaits = false := by
        rw [senderWaits_eq_false_iff]
        exact .inr (h.awaiting hpos file (by rw [hs, List.getLast?_concat]))
      exact .inl (exists_step_of_file hs hfree hended)
  | ended => exact .inr (.inl rfl)

lemma exists_step_of_waits (h : Wired t) (ha : Attended t) (hidle : t.consumer ≠ .idle)
    (hgone : t.consumer ≠ .gone) : ∃ u, Threads.Step t u := by
  rcases h.progress with hstep | hended | ⟨⟨x, hx⟩, hopen⟩
  · exact hstep
  · have hclosed := h.closed.mpr hended
    cases hpos : t.consumer with
    | starting =>
      obtain ⟨-, hin | ⟨x, hx⟩ | ⟨⟨x, hx⟩, -⟩⟩ := ha.starting hpos
      · rw [hended] at hin
        exact absurd rfl hin
      · cases hended.symm.trans hx
      · cases hended.symm.trans hx
    | idle => exact absurd hpos hidle
    | receiving =>
      have hnone := h.slot_eq_none (by simp [hended])
      refine ⟨_, .meetEnd t .closed t.out hpos ?_ ?_⟩
      · rw [receiverWaits_eq_false_iff]
        exact .inr hclosed
      · rw [Channel.take, hnone]
    | joining => exact ⟨_, .join t hpos hended⟩
    | awaiting => exact ⟨_, .await t hpos hended⟩
    | gone => exact absurd hpos hgone
  · have hplace := h.slot x hx
    cases hpos : t.consumer with
    | starting => exact ⟨_, .started t hpos (h.nonempty (by rw [hplace]; rfl))⟩
    | idle => exact absurd hpos hidle
    | receiving =>
      have htake : t.out.take = (.ok x, { t.out with slot := none }) := by
        rw [Channel.take, hx]
      refine ⟨_, .take t x _ hpos ?_ htake⟩
      rw [receiverWaits_eq_false_iff, hx]
      exact .inl rfl
    | joining => cases hplace.symm.trans (ha.ended (.inl hpos))
    | awaiting => cases hopen.symm.trans (ha.cancelled hpos)
    | gone => exact absurd hpos hgone

end Progress

end SourceSplice.Proofs
