import ScopedStore.Proofs.Journal
import ScopedStore.Proofs.Pending
import ScopedStore.Proofs.SideBySide
import ScopedStore.Proofs.UndoneValues

/-!
# A scope that is kept does not show

It makes no difference whether some work is done in a scope of its own that is kept, or directly
in the scope around it. Three records have to agree on that, and each is merged in its own way:
the frame of the scope is laid over the one below, the spans of its versions are appended to those
of the scope around it, and its savepoint is forgotten.

While the work runs, the handle inside the scope has one level more than the other one, and the
two differ by exactly this merge at that level (`Handle.OneMore`). Merging commutes with all that
happens at the levels above, because laying frames over each other and appending spans are both
associative. When the scope is closed the handles are the same but for their logs, so whatever
happens later is the same as well, even if a scope around it is discarded then
(`Work.Inlined.run`).
-/

set_option autoImplicit false

namespace ScopedStore

/-! ## Merging at a level -/

namespace Frames

theorem insertAll_assoc (first second third : Frame) :
    (SortedMap.insertAll first second).insertAll third =
      SortedMap.insertAll first (SortedMap.insertAll second third) := by
  refine SortedMap.ext_get? fun ref => ?_
  simp only [SortedMap.get?_insertAll, Option.or_assoc]

theorem insertAll_insert (first second : Frame) (ref : Ref) (change : Change) :
    SortedMap.insertAll first (second.insert ref change) =
      (SortedMap.insertAll first second).insert ref change := by
  refine SortedMap.ext_get? fun other => ?_
  simp only [SortedMap.get?_insertAll, SortedMap.get?_insert]
  by_cases same : other = ref
  · simp [same]
  · simp [same]

/-- The frames with the one at a level merged into the one below. -/
def keptAt (level : Nat) (frames : List Frame) : List Frame := frames.modifyTailIdx level kept

@[simp] theorem keptAt_zero (frames : List Frame) : keptAt 0 frames = kept frames := rfl

@[simp] theorem keptAt_nil (level : Nat) : keptAt level [] = [] := by
  cases level <;> rfl

@[simp] theorem keptAt_succ (level : Nat) (top : Frame) (below : List Frame) :
    keptAt (level + 1) (top :: below) = top :: keptAt level below := rfl

@[simp] theorem keptAt_eq_nil {level : Nat} {frames : List Frame} :
    keptAt level frames = [] ↔ frames = [] := by
  match level, frames with
  | _, [] => simp
  | 0, [_] | 0, _ :: _ :: _ | _ + 1, _ :: _ => simp [kept]

theorem record_keptAt (change : Change) (level : Nat) (frames : List Frame) :
    record change (keptAt level frames) = keptAt level (record change frames) := by
  match level, frames with
  | _, [] => simp [record]
  | 0, [_] => rfl
  | 0, top :: parent :: below => simp [record, kept, insertAll_insert]
  | _ + 1, _ :: _ => rfl

theorem opened_keptAt (level : Nat) (frames : List Frame) :
    opened (keptAt level frames) = keptAt (level + 1) (opened frames) := by
  match level, frames with
  | _, [] => simp [opened]
  | 0, [_] | 0, _ :: _ :: _ | _ + 1, _ :: _ => rfl

theorem kept_keptAt (level : Nat) (frames : List Frame) :
    kept (keptAt (level + 1) frames) = keptAt level (kept frames) := by
  match level, frames with
  | _, [] => simp [kept]
  | 0, [_] | 0, [_, _] | _ + 1, [_] => simp [kept]
  | 0, _ :: _ :: _ :: _ => simp [kept, insertAll_assoc]
  | _ + 1, _ :: _ :: _ => simp [kept]

theorem dropped_keptAt (level : Nat) (frames : List Frame) :
    dropped (keptAt (level + 1) frames) = keptAt level (dropped frames) := by
  match level, frames with
  | _, [] => simp [dropped]
  | 0, [_] | 0, [_, _] | 0, _ :: _ :: _ :: _ | _ + 1, [_] | _ + 1, _ :: _ :: _ => simp [dropped, kept]

theorem kept_opened (frames : List Frame) : kept (opened frames) = frames := by
  cases frames with
  | nil => rfl
  | cons top below => simp [opened, kept]

/-- Merging two frames does not change what all of them tell. -/
theorem overlay_keptAt (level : Nat) (frames : List Frame) :
    overlay (keptAt level frames) = overlay frames := by
  induction level generalizing frames with
  | zero => exact overlay_kept frames
  | succ level ih =>
      cases frames with
      | nil => simp
      | cons top below => simp [overlay, ih]

theorem findSome?_keptAt (ref : Ref) (level : Nat) (frames : List Frame) :
    (keptAt level frames).findSome? (fun frame => frame.get? ref) =
      frames.findSome? fun frame => frame.get? ref := by
  induction level generalizing frames with
  | zero =>
      match frames with
      | [] | [_] => rfl
      | top :: parent :: below =>
          simp only [keptAt_zero, kept, List.findSome?_cons, SortedMap.get?_insertAll]
          cases SortedMap.get? top ref with
          | none => simp
          | some change => simp
  | succ level ih =>
      cases frames with
      | nil => simp
      | cons top below => simp [List.findSome?_cons, ih]

end Frames

namespace VersionSpans

theorem note_followedBy (spans inner : VersionSpans) (ref : Ref) (base latest : Int) :
    spans.followedBy (inner.note ref base latest) =
      (spans.followedBy inner).note ref base latest := by
  refine SortedMap.ext_get? fun other => ?_
  simp only [get?_followedBy, get?_note]
  by_cases same : other = ref
  · subst same
    cases spans.get? other <;> cases inner.get? other <;> simp [VersionSpan.join]
  · simp [same]

theorem followedBy_assoc (first second third : VersionSpans) :
    (first.followedBy second).followedBy third = first.followedBy (second.followedBy third) := by
  refine SortedMap.ext_get? fun ref => ?_
  simp only [get?_followedBy]
  cases first.get? ref <;> cases second.get? ref <;> cases third.get? ref <;> rfl

/-- The spans of the open scopes with those of one level appended to those of the scope around
it. -/
def joinedAt (level : Nat) (written : List VersionSpans) : List VersionSpans :=
  written.modifyTailIdx level Handle.joinInnermost

@[simp] theorem joinedAt_zero (written : List VersionSpans) :
    joinedAt 0 written = Handle.joinInnermost written := rfl

@[simp] theorem joinedAt_nil (level : Nat) : joinedAt level [] = [] := by
  cases level <;> rfl

@[simp] theorem joinedAt_succ (level : Nat) (top : VersionSpans) (below : List VersionSpans) :
    joinedAt (level + 1) (top :: below) = top :: joinedAt level below := rfl

/-- The spans of the open scopes when a move is noted in the innermost one. -/
def noted (ref : Ref) (old new : Int) : List VersionSpans → List VersionSpans
  | [] => []
  | top :: below => top.note ref old new :: below

theorem noted_joinedAt (ref : Ref) (old new : Int) (level : Nat) (written : List VersionSpans) :
    noted ref old new (joinedAt level written) = joinedAt level (noted ref old new written) := by
  match level, written with
  | _, [] => simp [noted]
  | 0, [_] | _ + 1, _ :: _ => rfl
  | 0, _ :: _ :: _ => simp [noted, Handle.joinInnermost, note_followedBy]

theorem join_joinedAt (level : Nat) (written : List VersionSpans) :
    Handle.joinInnermost (joinedAt (level + 1) written) =
      joinedAt level (Handle.joinInnermost written) := by
  match level, written with
  | _, [] => simp [Handle.joinInnermost]
  | 0, [_] | 0, [_, _] | _ + 1, [_] => simp [Handle.joinInnermost]
  | 0, _ :: _ :: _ :: _ => simp [Handle.joinInnermost, followedBy_assoc]
  | _ + 1, _ :: _ :: _ => simp [Handle.joinInnermost]

theorem join_opened (written : List VersionSpans) :
    Handle.joinInnermost (∅ :: written) = written := by
  cases written <;> rfl

end VersionSpans

/-! ## One level more -/

namespace Handle

/-- One handle has one scope more than the other, with so many scopes above it, and is the same as
the other once that scope is merged into the one around it. -/
structure OneMore (level : Nat) (more less : Handle) : Prop where
  content : more.content = less.content
  saved : less.saved = more.saved.modifyTailIdx level List.tail
  depth : more.depth = less.depth + 1
  written : less.written = VersionSpans.joinedAt level more.written
  undone : more.undone = less.undone
  frames : less.frames = Frames.keptAt level more.frames
  ids : more.ids = less.ids
  now : more.now = less.now

theorem oneMore_openScope (handle : Handle) : OneMore 0 handle.openScope handle where
  content := rfl
  saved := rfl
  depth := rfl
  written := (VersionSpans.join_opened handle.written).symm
  undone := rfl
  frames := by rw [frames_openScope, Frames.keptAt_zero, Frames.kept_opened]
  ids := rfl
  now := rfl

theorem written_wrote (handle : Handle) (write : Write) :
    (handle.wrote write).written =
      match write with
      | .updated record =>
          VersionSpans.noted record.ref (record.version - 1) record.version handle.written
      | .inserted _ | .deleted _ => handle.written := by
  cases write with
  | inserted record | deleted ref => rfl
  | updated record =>
      obtain ⟨_, _, written, _, _, _, _, _⟩ := handle
      cases written <;> rfl

namespace OneMore

variable {level : Nat} {more less : Handle}

theorem tracked (one : OneMore level more less) : more.tracked = less.tracked := by
  have same : more.tracked = false ↔ less.tracked = false := by
    rw [← frames_eq_nil, ← frames_eq_nil, one.frames, Frames.keptAt_eq_nil]
  revert same
  cases more.tracked <;> cases less.tracked <;> simp

theorem sameChanges (one : OneMore level more less) : SameChanges more less where
  tracked := one.tracked
  pending ref := by rw [pending_eq, pending_eq, one.frames, Frames.findSome?_keptAt]
  allPending := by rw [allPending_eq, allPending_eq, one.frames, Frames.overlay_keptAt]

theorem wrote (one : OneMore level more less) (write : Write) :
    OneMore level (more.wrote write) (less.wrote write) where
  content := by simp only [content_wrote, one.content, one.now]
  saved := by simp only [saved_wrote, one.saved]
  depth := by simp only [depth_wrote, one.depth]
  written := by
    rw [written_wrote, written_wrote]
    cases write with
    | inserted record | deleted ref => exact one.written
    | updated record =>
        dsimp only
        rw [one.written, VersionSpans.noted_joinedAt]
  undone := by simp only [undone_wrote, one.undone]
  frames := by rw [frames_wrote, frames_wrote, one.frames, Frames.record_keptAt]
  ids := by cases write <;> exact one.ids
  now := by cases write <;> exact one.now

theorem record (one : OneMore level more less) (change : Change) :
    OneMore level (more.record change) (less.record change) :=
  { one with
    frames := by rw [frames_record, frames_record, one.frames, Frames.record_keptAt] }

theorem after (one : OneMore level more less) (deed : Deed) (ids : IdSource) :
    OneMore level (more.after deed ids) (less.after deed ids) := by
  cases deed with
  | wrote write => exact { one.wrote write with ids := rfl }
  | recorded change => exact { one.record change with ids := rfl }
  | quiet | opened | kept | discarded => exact { one with ids := rfl }

theorem opened (one : OneMore level more less) :
    OneMore (level + 1) more.openScope less.openScope where
  content := one.content
  saved := by
    rw [saved_openScope, saved_openScope, one.saved, one.content]
    rfl
  depth := congrArg (· + 1) one.depth
  written := congrArg (List.cons ∅) one.written
  undone := one.undone
  frames := by rw [frames_openScope, frames_openScope, one.frames, Frames.opened_keptAt]
  ids := one.ids
  now := one.now

theorem kept (one : OneMore (level + 1) more less) (opened : 0 < less.depth) :
    OneMore level more.kept less.kept where
  content := one.content
  saved := by
    rw [saved_kept, saved_kept, one.saved]
    cases more.saved with
    | nil => cases level <;> rfl
    | cons saved below => rfl
  depth := by
    have depth := one.depth
    have closed : less.kept.depth = less.depth - 1 := rfl
    have closed' : more.kept.depth = more.depth - 1 := rfl
    omega
  written := by
    have joined := VersionSpans.join_joinedAt level more.written
    rwa [← one.written] at joined
  undone := one.undone
  frames := by rw [frames_kept, frames_kept, one.frames, Frames.kept_keptAt]
  ids := one.ids
  now := one.now

theorem dropped (one : OneMore (level + 1) more less) (lockstep : more.Lockstep)
    (lockstep' : less.Lockstep) (opened : 0 < less.depth) :
    OneMore level more.dropped less.dropped := by
  have saved := one.saved
  rw [saved_of_dropped lockstep (one.depth ▸ Nat.succ_pos _), saved_of_dropped lockstep' opened,
    List.modifyTailIdx_succ_cons, List.cons.injEq] at saved
  exact {
    content := saved.1.symm
    saved := saved.2
    depth := by
      have depth := one.depth
      have closed : less.dropped.depth = less.depth - 1 := rfl
      have closed' : more.dropped.depth = more.depth - 1 := rfl
      omega
    written := by
      have written := one.written
      cases held : more.written with
      | nil => simp [Handle.dropped, written, held]
      | cons top below => simp [Handle.dropped, written, held]
    undone := by
      have written := one.written
      cases held : more.written with
      | nil => simp [Handle.dropped, written, held, one.undone]
      | cons top below => simp [Handle.dropped, written, held, one.undone]
    frames := by rw [frames_dropped, frames_dropped, one.frames, Frames.dropped_keptAt]
    ids := one.ids
    now := one.now }

end OneMore

/-- **Work that does not ask how many scopes are open does not notice one more.** -/
theorem simulation_oneMore : Simulation [.depth] OneMore where
  sight one := ⟨one.content, one.undone, one.ids, one.now⟩
  depth _ asked := absurd (List.mem_singleton_self _) asked
  changes one _ := one.sameChanges
  after := OneMore.after
  opened := OneMore.opened
  closed lockstep lockstep' _ opened one ending := by
    cases ending with
    | keep => exact one.kept opened
    | discard | unwind => exact one.dropped lockstep lockstep' opened

/-! ## When the scope is closed -/

/-- The frames tell which changes are recorded. -/
theorem changes_eq_of_frames {first second : Handle} (same : first.frames = second.frames) :
    first.changes = second.changes := by
  rw [frames, frames] at same
  cases held : first.changes with
  | none =>
      cases held' : second.changes with
      | none => rfl
      | some stack => simp [held, held', ChangeStack.frames] at same
  | some stack =>
      cases held' : second.changes with
      | none => simp [held, held', ChangeStack.frames] at same
      | some other =>
          obtain ⟨base, scopes⟩ := stack
          obtain ⟨base', scopes'⟩ := other
          simp only [held, held', Option.map_some, Option.getD_some, ChangeStack.frames] at same
          obtain ⟨rfl, bases⟩ := List.append_inj' same rfl
          cases bases
          rfl

/-- Savepoints of the same names with the same contents are the same. -/
theorem savepoints_eq {first second : List Savepoint}
    (names : first.map Savepoint.name = second.map Savepoint.name)
    (contents : first.map Savepoint.content = second.map Savepoint.content) : first = second := by
  induction first generalizing second with
  | nil => simpa using names.symm
  | cons savepoint rest ih =>
      cases second with
      | nil => simp at names
      | cons other others =>
          obtain ⟨name, content⟩ := savepoint
          obtain ⟨name', content'⟩ := other
          simp only [List.map_cons, List.cons.injEq] at names contents
          obtain ⟨rfl, names⟩ := names
          obtain ⟨rfl, contents⟩ := contents
          rw [ih names contents]

theorem connection_eq {first second : Connection} (content : first.content = second.content)
    (savepoints : first.savepoints = second.savepoints) : first = second := by
  cases first
  cases second
  cases content
  cases savepoints
  rfl

variable {handle more less : Handle}

/-- **When the scope is kept, the two handles are the same but for their logs.** -/
theorem OneMore.sameButLog (one : OneMore 0 more less) (lockstep : more.Lockstep)
    (lockstep' : less.Lockstep) : SameButLog less more.kept := by
  have opened : 0 < more.depth := one.depth ▸ Nat.succ_pos _
  have closed : more.kept.Lockstep := (Does.kept opened).lockstep lockstep
  have depth : more.kept.depth = less.depth := by
    have lowered : more.kept.depth = more.depth - 1 := rfl
    have depth := one.depth
    omega
  have savepoints : more.kept.connection.savepoints = less.connection.savepoints := by
    refine savepoints_eq ?_ ?_
    · rw [closed.savepoints, lockstep'.savepoints, depth]
    · have contents : more.kept.saved = less.saved := by rw [saved_kept, one.saved]; rfl
      exact contents
  have changes : more.kept.changes = less.changes :=
    changes_eq_of_frames (by rw [frames_kept, one.frames, Frames.keptAt_zero])
  have connection : more.kept.connection = less.connection :=
    connection_eq one.content savepoints
  have written : more.kept.written = less.written := one.written.symm
  have undone : more.kept.undone = less.undone := one.undone
  have ids : more.kept.ids = less.ids := one.ids
  have now : more.kept.now = less.now := one.now
  refine ⟨more.kept.log, ?_⟩
  rw [← connection, ← depth, ← written, ← undone, ← changes, ← ids, ← now]

/-- **Work in a scope that is kept does what it does without the scope.** -/
theorem Lockstep.kept_unnoticed (lockstep : handle.Lockstep) {α : Type} (body : Work α)
    (blind : body.Avoids [.depth]) :
    let inside := body.run handle.openScope
    let direct := body.run handle
    inside.1 = direct.1 ∧ body.replies handle.openScope = body.replies handle ∧
      SameButLog direct.2 (inside.2.closed .keep) := by
  intro inside direct
  obtain ⟨value, told, one⟩ := simulation_oneMore.run body
    ((Does.opened handle).lockstep lockstep) lockstep blind (oneMore_openScope handle)
  exact ⟨value, told, one.sameButLog (lockstep.inside body).1 (Work.lockstep_run lockstep body)⟩

end Handle

/-! ## Programs -/

namespace Work

/-- Two programs, from a handle on, differ in one scope: the one opens it and keeps it, and the
other does the work directly. That work does not ask for the number of open scopes. The scope comes
first, or after an operation, or inside of another scope or behind one, however that one ends. -/
inductive Inlined : ∀ {α : Type}, Handle → Work α → Work α → Prop
  | here {α β : Type} {handle : Handle} {body : Work β} {ending : β → Ending}
      {next : β → Except StoreError Unit → Work α} (blind : body.Avoids [.depth])
      (keeps : ending (body.run handle.openScope).1 = .keep) :
      Inlined handle (scope body ending next) (body.bind fun value => next value (.ok ()))
  | call {α β : Type} {handle : Handle} {operation : Operation β} {next other : β → Work α}
      (rest : Inlined (handle.perform operation).2 (next (handle.perform operation).1)
        (other (handle.perform operation).1)) :
      Inlined handle (call operation next) (call operation other)
  | inside {α β : Type} {handle : Handle} {body direct : Work β} {ending : β → Ending}
      {next : β → Except StoreError Unit → Work α} (rest : Inlined handle.openScope body direct) :
      Inlined handle (scope body ending next) (scope direct ending next)
  | behind {α β : Type} {handle : Handle} {body : Work β} {ending : β → Ending}
      {next other : β → Except StoreError Unit → Work α}
      (rest : let inside := body.run handle.openScope
        let closing := inside.2.close (ending inside.1)
        Inlined closing.2 (next inside.1 closing.1) (other inside.1 closing.1)) :
      Inlined handle (scope body ending next) (scope body ending other)

/-- The first replies are the second ones and the outcome of one more scope, which was closed
without a failure. -/
def OneMoreOutcome (more less : List Reply) : Prop :=
  ∃ (before after : List Reply) (β : Type) (value : β),
    more = before ++ .outcome value (.ok ()) :: after ∧ less = before ++ after

theorem OneMoreOutcome.append {more less : List Reply} (one : OneMoreOutcome more less)
    (first : List Reply) : OneMoreOutcome (first ++ more) (first ++ less) := by
  obtain ⟨before, after, β, value, rfl, rfl⟩ := one
  exact ⟨first ++ before, after, β, value, by simp, by simp⟩

theorem OneMoreOutcome.append_right {more less : List Reply} (one : OneMoreOutcome more less)
    (last : List Reply) : OneMoreOutcome (more ++ last) (less ++ last) := by
  obtain ⟨before, after, β, value, rfl, rfl⟩ := one
  exact ⟨before, after ++ last, β, value, by simp, by simp⟩

/-- **A program with a scope that is kept does what it does without that scope.** -/
theorem Inlined.run {α : Type} {handle : Handle} {enclosed direct : Work α}
    (inlined : Inlined handle enclosed direct) (lockstep : handle.Lockstep) :
    (enclosed.run handle).1 = (direct.run handle).1 ∧
      OneMoreOutcome (enclosed.replies handle) (direct.replies handle) ∧
      (direct.run handle).2.SameButLog (enclosed.run handle).2 := by
  induction inlined with
  | @here α β handle body ending next blind keeps =>
      obtain ⟨value, told, same⟩ := lockstep.kept_unnoticed body blind
      obtain ⟨behind, ran, replied⟩ := lockstep.scope_closes body ending next
      rw [keeps, value] at ran replied
      rw [keeps] at behind
      obtain ⟨given, replies, last⟩ :=
        same.run (lockstep_run lockstep body) behind (next (body.run handle).1 (.ok ()))
      rw [ran, replied, run_bind, replies_bind, told]
      exact ⟨given.symm, ⟨_, _, β, _, rfl, by rw [replies]⟩, last⟩
  | @call α β handle operation next other rest ih =>
      obtain ⟨given, replied, last⟩ := ih ((handle.does_perform operation).lockstep lockstep)
      exact ⟨given, replied.append [_], last⟩
  | @inside α β handle body direct ending next rest ih =>
      have opened := (Handle.Does.opened handle).lockstep lockstep
      obtain ⟨value, told, same⟩ := ih opened
      have closed := same.closed (ending (direct.run handle.openScope).1)
      obtain ⟨behind, ran, replied⟩ := lockstep.scope_closes body ending next
      obtain ⟨behind', ran', replied'⟩ := lockstep.scope_closes direct ending next
      rw [value] at behind ran replied
      obtain ⟨given, replies, last⟩ := closed.run behind' behind (next _ (.ok ()))
      rw [ran, ran', replied, replied', ← replies]
      exact ⟨given.symm, told.append_right _, last⟩
  | @behind α β handle body ending next other rest ih =>
      have closes := (lockstep.inside body).1.close_of_open (lockstep.open_inside body)
        (ending (body.run handle.openScope).1)
      obtain ⟨behind, ran, replied⟩ := lockstep.scope_closes body ending next
      obtain ⟨_, ran', replied'⟩ := lockstep.scope_closes body ending other
      simp only [closes] at ih
      obtain ⟨given, replies, last⟩ := ih behind
      rw [ran, ran', replied, replied']
      exact ⟨given, (replies.append [_]).append _, last⟩

open Transaction in
/-- Work that succeeds in a scope of its own can be done directly. -/
theorem inlined_nested {α β : Type} {handle : Handle} {work : Transaction β}
    (next : β → Transaction α) (blind : work.Avoids [.depth]) {value : β}
    (succeeds : (Work.run work.run handle.openScope).1 = .ok value) :
    Inlined handle (nested work >>= next).run (work >>= next).run := by
  have keeps : ending (Work.run work.run handle.openScope).1 = .keep := by rw [succeeds]; rfl
  have direct : (work >>= next).run = Work.bind work.run fun answer =>
      ExceptT.bindCont next (outcome answer (.ok ())) := by
    refine congrArg (Work.bind work.run) (funext fun answer => ?_)
    cases answer <;> rfl
  rw [direct]
  exact @Inlined.here _ _ handle work.run ending
    (fun answer closing => ExceptT.bindCont next (outcome answer closing)) blind keeps

end Work

/-- **A scope that is kept does not show.** Take any handle that a transaction can reach, and from
there two programs that differ in one scope, wherever it comes and whatever is done later: the one
opens the scope and keeps it, and the other does the same work directly. They give the same, and
all that they are told is the same but for the outcome of that scope. In the end nothing differs
but the logs, so the rows and tombstones are the same, what is pending and would be published,
and the memory of undone versions. For a whole transaction this means that its outcome is the
same, with the changes that it has committed, and so are the store and its bus. -/
theorem kept_scope_does_not_show :
    (∀ (database : Database) (tracked : Bool) (ids : IdSource) (now : Int) (moves : List Move)
        {α : Type} (enclosed direct : Work α),
      let handle := (Handle.start database tracked ids now).play moves
      Work.Inlined handle enclosed direct →
        (enclosed.run handle).1 = (direct.run handle).1 ∧
          Work.OneMoreOutcome (enclosed.replies handle) (direct.replies handle) ∧
          (direct.run handle).2.SameButLog (enclosed.run handle).2) ∧
    (∀ (store : Store) {α : Type} (enclosed direct : Work α) (ending : α → Ending),
      let start := Handle.start store.database true store.ids store.now
      Work.Inlined start.openScope enclosed direct →
        Store.AlikeAfter (store.runTracked direct ending) (store.runTracked enclosed ending)) := by
  constructor
  · intro database tracked ids now moves α enclosed direct handle inlined
    exact inlined.run ((Handle.lockstep_start database tracked ids now).play moves)
  · intro store α enclosed direct ending start inlined
    have lockstep : start.Lockstep := Handle.lockstep_start _ _ _ _
    obtain ⟨value, _, last⟩ := inlined.run ((Handle.Does.opened start).lockstep lockstep)
    exact Store.runTracked_alike_of_attempt (Store.attempt_congr rfl value.symm last)

/-- A tab is updated in a scope that is kept, and the scope around it is discarded. When the value
that was updated is written once more, nothing tells whether there was a scope that was kept. -/
theorem kept_update_does_not_show :
    let handle := (Handle.start .withSample true default 0).play [.openScope]
    let update (tab : Tab) := Transaction.ask (.update .tab tab)
    let undone (updating : Transaction Tab) : Work (Except StoreError Tab) :=
      .scope updating.run (fun _ => .discard) fun answer _ =>
        (ExceptT.bindCont update answer)
    let enclosed := undone ((update (Tab.sample 1)).nested >>= pure)
    let direct := undone (update (Tab.sample 1) >>= pure)
    Work.Inlined handle enclosed direct ∧ (enclosed.run handle).1 = (direct.run handle).1 ∧
      (direct.run handle).2.SameButLog (enclosed.run handle).2 := by
  intro handle update undone enclosed direct
  have succeeds : (Work.run (update (Tab.sample 1)).run handle.openScope.openScope).1 =
      .ok (Tab.sample 2) := by decide +kernel
  have inlined : Work.Inlined handle enclosed direct :=
    .inside (Work.inlined_nested pure ⟨by decide, fun _ => trivial⟩ succeeds)
  obtain ⟨value, _, last⟩ :=
    kept_scope_does_not_show.1 .withSample true default 0 [.openScope] enclosed direct inlined
  exact ⟨inlined, value, last⟩

end ScopedStore
