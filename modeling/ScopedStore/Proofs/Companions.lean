import ScopedStore.Proofs.Directories

/-!
# Looking at companions

Before the engine reads a file it looks at the companions beside it, and may remove a journal or a
log. What it says to each of them, and whether it removes it, depends on what stands there, on
whether the file is blank, and on the name by which it was asked (`FileTree.settle_eq`). From this
everything else is read off.

Nothing but journals and logs is removed, and no directory (`FileTree.keepsDirectories_settle`,
`FileTree.node?_settle`), so the file holds what it held. Looking again comes to the same and
removes nothing more (`FileTree.settle_settle`). Where nothing was left to do, nothing is to be done
when a database was written to the file (`FileTree.Settled.withContent`).
-/

set_option autoImplicit false

namespace ScopedStore

namespace FileTree

variable {tree first second : FileTree} {name : DatabaseName} {names : List String}
  {ending other : String} {content : Database}

/-! ## Places beside a file -/

theorem beside_concat (outer : List String) (last ending : String) :
    beside (outer ++ [last]) ending = outer ++ [last ++ ending] := by
  rw [beside, List.dropLast_concat, List.getLast?_concat]
  rfl

theorem beside_ne_nil (some : names ≠ []) (ending : String) : beside names ending ≠ [] := by
  rcases List.eq_nil_or_concat names with none | ⟨outer, last, rfl⟩
  · exact absurd none some
  · rw [List.concat_eq_append, beside_concat]
    simp

/-- **The place beside a file has the ending at its end.** -/
theorem place_beside (some : names ≠ []) (ending : String) :
    place (beside names ending) = place names ++ ending := by
  rcases List.eq_nil_or_concat names with none | ⟨outer, last, rfl⟩
  · exact absurd none some
  · rw [List.concat_eq_append, beside_concat, place, place]
    by_cases top : outer = []
    · subst top
      rw [List.nil_append, List.nil_append, String.intercalate_singleton,
        String.intercalate_singleton, String.append_assoc]
    · rw [String.intercalate_append_of_ne_nil top (List.cons_ne_nil _ _),
        String.intercalate_append_of_ne_nil top (List.cons_ne_nil _ _),
        String.intercalate_singleton, String.intercalate_singleton]
      simp only [String.append_assoc]

theorem place_beside_ne (some : names ≠ []) (longer : ending ≠ "") :
    place names ≠ place (beside names ending) := by
  rw [place_beside some]
  exact fun same =>
    longer ((String.append_right_inj (place names)).1 (same.symm.trans String.append_empty.symm))

theorem place_beside_inj (some : names ≠ []) :
    place (beside names ending) = place (beside names other) ↔ ending = other := by
  rw [place_beside some, place_beside some]
  exact String.append_right_inj _

/-! ## What stands where -/

theorem node?_withNode_self (some : names ≠ []) (node : FileNode) :
    (tree.withNode names node).node? names = Option.some node := by
  rw [node?_of_ne_nil _ some, withNode]
  exact SortedMap.get?_insert_self _ _ _

theorem node?_withNode_beside (some : names ≠ []) (longer : ending ≠ "") (node : FileNode) :
    (tree.withNode names node).node? (beside names ending) = tree.node? (beside names ending) := by
  rw [node?_of_ne_nil _ (beside_ne_nil some ending), node?_of_ne_nil _ (beside_ne_nil some ending),
    withNode, SortedMap.get?_insert, if_neg (place_beside_ne some longer).symm]

theorem node?_withoutNode_self (some : names ≠ []) (longer : ending ≠ "") :
    (tree.withoutNode (beside names ending)).node? names = tree.node? names := by
  rw [node?_of_ne_nil _ some, node?_of_ne_nil _ some, withoutNode, SortedMap.get?_erase,
    if_neg (place_beside_ne some longer)]

theorem node?_withoutNode_beside (some : names ≠ []) (ending other : String) :
    (tree.withoutNode (beside names ending)).node? (beside names other) =
      if other = ending then none else tree.node? (beside names other) := by
  rw [node?_of_ne_nil _ (beside_ne_nil some other), node?_of_ne_nil _ (beside_ne_nil some other),
    withoutNode, SortedMap.get?_erase]
  simp only [place_beside_inj some]

theorem isBlank_congr (same : second.node? names = first.node? names) :
    second.isBlank names = first.isBlank names := by
  rw [isBlank, isBlank, same]

/-! ## What the engine says to companions -/

/-- What the engine says to a lock beside a file: it takes it and gives it back, if it can. -/
def lockVerdict (name : DatabaseName) (names : List String) (there : Bool) :
    Except EngineError Unit :=
  if name.system ≠ DatabaseName.lockFileSystem ∨ name.unlocked then .ok ()
  else if isBesideTooLong names lockEnding then .error .unreadable
  else if there then .error .locked
  else .ok ()

/-- What the engine says to a journal beside a file, and whether it removes it. -/
def journalVerdict (isReadOnly isBlank : Bool) : Option FileNode → Except EngineError Unit × Bool
  | none => (.ok (), false)
  | some .directory => (if isBlank then .ok () else .error .unreadable, false)
  | some (.database _) =>
      if isReadOnly then (if isBlank then .ok () else .error .readOnly, false) else (.ok (), true)
  | some (.text content) =>
      if (if isBlank then content.isEmpty else isIdleJournal content) then (.ok (), false)
      else if isReadOnly then (if isBlank then .ok () else .error .readOnly, false)
      else (.ok (), true)

/-- What the engine says to a log of changes beside a file, and whether it removes it. -/
def logVerdict (mayBeThere isBlank : Bool) : Option FileNode → Except EngineError Unit × Bool
  | none => (.ok (), false)
  | some .directory => (.error (if isBlank then .unreadable else .cannotProtect), false)
  | some (.text content) =>
      if content.isEmpty then (.ok (), false)
      else if isBlank then (.ok (), true)
      else (if mayBeThere then .ok () else .error .cannotProtect, false)
  | some (.database _) =>
      if isBlank then (.ok (), true)
      else (if mayBeThere then .ok () else .error .cannotProtect, false)

/-- The tree without a companion, if it is to be removed. -/
def cleared (tree : FileTree) (names : List String) (ending : String) (removes : Bool) : FileTree :=
  if removes then tree.withoutNode (beside names ending) else tree

theorem settleLock_eq (tree : FileTree) (name : DatabaseName) (names : List String) :
    tree.settleLock name names =
      (lockVerdict name names (tree.node? (beside names lockEnding)).isSome, tree) := by
  rw [settleLock, lockVerdict]
  split
  · rfl
  · split
    · rfl
    · split <;> rfl

theorem settleJournal_eq (tree : FileTree) (name : DatabaseName) (names : List String) :
    tree.settleJournal name names =
      let verdict := journalVerdict name.isReadOnly (tree.isBlank names)
        (tree.node? (beside names journalEnding))
      (verdict.1, tree.cleared names journalEnding verdict.2) := by
  rw [settleJournal]
  cases tree.node? (beside names journalEnding) with
  | none => rfl
  | some node =>
      cases node with
      | directory => cases tree.isBlank names <;> rfl
      | database content => cases tree.isBlank names <;> cases name.isReadOnly <;> rfl
      | text content =>
          cases tree.isBlank names with
          | false =>
              dsimp only [journalVerdict]
              by_cases idle : isIdleJournal content = true
              · simp [idle, cleared]
              · cases name.isReadOnly <;> simp [idle, cleared]
          | true =>
              by_cases empty : content = ""
              · subst empty
                rfl
              · cases name.isReadOnly <;> simp [journalVerdict, empty, cleared]

theorem settleLog_eq (tree : FileTree) (name : DatabaseName) (names : List String) :
    tree.settleLog name names =
      let verdict := logVerdict name.mayHaveLog (tree.isBlank names)
        (tree.node? (beside names logEnding))
      (verdict.1, tree.cleared names logEnding verdict.2) := by
  rw [settleLog]
  cases tree.node? (beside names logEnding) with
  | none => rfl
  | some node =>
      cases node with
      | directory => cases tree.isBlank names <;> rfl
      | database content => cases tree.isBlank names <;> rfl
      | text content =>
          by_cases empty : content = ""
          · subst empty
            rfl
          · cases tree.isBlank names <;> simp [logVerdict, empty, cleared]

/-- Only what is there and no directory is removed, and then nothing is said against it. -/
theorem journalVerdict_removes {isReadOnly isBlank : Bool} {node : Option FileNode}
    (removes : (journalVerdict isReadOnly isBlank node).2 = true) :
    (journalVerdict isReadOnly isBlank node).1 = .ok () ∧ node ≠ some .directory := by
  cases node with
  | none => cases removes
  | some node =>
      cases node with
      | directory => cases removes
      | database content =>
          rw [journalVerdict] at removes ⊢
          cases isReadOnly with
          | false => exact ⟨rfl, nofun⟩
          | true => cases removes
      | text content =>
          rw [journalVerdict] at removes ⊢
          generalize (if isBlank then content.isEmpty else isIdleJournal content) = idle
            at removes ⊢
          cases idle with
          | true => cases removes
          | false =>
              cases isReadOnly with
              | false => exact ⟨rfl, nofun⟩
              | true => cases removes

theorem logVerdict_removes {mayBeThere isBlank : Bool} {node : Option FileNode}
    (removes : (logVerdict mayBeThere isBlank node).2 = true) :
    (logVerdict mayBeThere isBlank node).1 = .ok () ∧ node ≠ some .directory := by
  cases node with
  | none => cases removes
  | some node =>
      cases node with
      | directory => cases removes
      | database content =>
          cases isBlank with
          | true => exact ⟨rfl, nofun⟩
          | false => cases removes
      | text content =>
          rw [logVerdict] at removes ⊢
          generalize content.isEmpty = empty at removes ⊢
          cases empty with
          | true => cases removes
          | false =>
              cases isBlank with
              | true => exact ⟨rfl, nofun⟩
              | false => cases removes

/-- A log that was left beside a file that is not blank may stay. -/
theorem logVerdict_of_left {mayBeThere isBlank : Bool} {node : Option FileNode}
    (left : logVerdict mayBeThere isBlank node = (.ok (), false)) :
    logVerdict mayBeThere false node = (.ok (), false) := by
  cases isBlank with
  | false => exact left
  | true =>
      cases node with
      | none => rfl
      | some node =>
          cases node with
          | directory => cases left
          | database content => cases left
          | text content =>
              rw [logVerdict] at left ⊢
              split at left
              · rename_i empty
                rw [if_pos empty]
              · cases left

/-! ## Looking -/

/-- **What looking at the companions of a file comes to.** -/
theorem settle_eq (tree : FileTree) {name : DatabaseName} (mutable : name.immutable = false)
    {names : List String} (some : names ≠ []) :
    tree.settle name names =
      match lockVerdict name names (tree.node? (beside names lockEnding)).isSome with
      | .error cause => (.error cause, tree)
      | .ok () =>
          let journal := journalVerdict name.isReadOnly (tree.isBlank names)
            (tree.node? (beside names journalEnding))
          let between := tree.cleared names journalEnding journal.2
          match journal.1 with
          | .error cause => (.error cause, between)
          | .ok () =>
              let log := logVerdict name.mayHaveLog (tree.isBlank names)
                (tree.node? (beside names logEnding))
              (log.1, between.cleared names logEnding log.2) := by
  have isBlank (removes : Bool) :
      (tree.cleared names journalEnding removes).isBlank names = tree.isBlank names := by
    cases removes with
    | false => rfl
    | true => exact isBlank_congr (node?_withoutNode_self some (by decide))
  have log (removes : Bool) :
      (tree.cleared names journalEnding removes).node? (beside names logEnding) =
        tree.node? (beside names logEnding) := by
    cases removes with
    | false => rfl
    | true => exact (node?_withoutNode_beside some _ _).trans (if_neg (by decide))
  rw [settle, if_neg (by simp [mutable]), settleLock_eq]
  cases lockVerdict name names (tree.node? (beside names lockEnding)).isSome with
  | error cause => rfl
  | ok done =>
      dsimp only
      rw [settleJournal_eq]
      dsimp only
      cases (journalVerdict name.isReadOnly (tree.isBlank names)
          (tree.node? (beside names journalEnding))).1 with
      | error cause => rfl
      | ok done =>
          dsimp only
          rw [settleLog_eq, isBlank, log]

theorem node?_cleared_self (some : names ≠ []) (longer : ending ≠ "") (removes : Bool) :
    (tree.cleared names ending removes).node? names = tree.node? names := by
  cases removes with
  | false => rfl
  | true => exact node?_withoutNode_self some longer

theorem node?_cleared_beside (some : names ≠ []) (removes : Bool) (apart : other ≠ ending) :
    (tree.cleared names ending removes).node? (beside names other) =
      tree.node? (beside names other) := by
  cases removes with
  | false => rfl
  | true => exact (node?_withoutNode_beside some _ _).trans (if_neg apart)

/-- What stands at the place of the file stays. -/
theorem node?_settle (tree : FileTree) (name : DatabaseName) (some : names ≠ []) :
    (tree.settle name names).2.node? names = tree.node? names := by
  cases fixed : name.immutable with
  | true => rw [settle, if_pos fixed]
  | false =>
      rw [settle_eq tree fixed some]
      split
      · rfl
      · dsimp only
        split
        · exact node?_cleared_self some (by decide) _
        · dsimp only
          rw [node?_cleared_self some (by decide), node?_cleared_self some (by decide)]

theorem keepsDirectories_cleared (some : names ≠ []) {removes : Bool}
    (file : removes = true → tree.node? (beside names ending) ≠ Option.some .directory) :
    tree.KeepsDirectories (tree.cleared names ending removes) := by
  cases removes with
  | false => exact .refl tree
  | true => exact keepsDirectories_withoutNode (beside_ne_nil some ending) (file rfl)

/-- Directories stay. -/
theorem keepsDirectories_settle (tree : FileTree) (name : DatabaseName) (some : names ≠ []) :
    tree.KeepsDirectories (tree.settle name names).2 := by
  cases fixed : name.immutable with
  | true =>
      rw [settle, if_pos fixed]
      exact .refl tree
  | false =>
      have journal : tree.KeepsDirectories (tree.cleared names journalEnding
          (journalVerdict name.isReadOnly (tree.isBlank names)
            (tree.node? (beside names journalEnding))).2) :=
        keepsDirectories_cleared some fun removes => (journalVerdict_removes removes).2
      rw [settle_eq tree fixed some]
      split
      · exact .refl tree
      · dsimp only
        split
        · exact journal
        · refine journal.trans (keepsDirectories_cleared some fun removes => ?_)
          rw [node?_cleared_beside some _ (by decide)]
          exact (logVerdict_removes removes).2

/-- What was removed is not there, and what was left is left again. -/
theorem journalVerdict_cleared (tree : FileTree) (some : names ≠ []) (isReadOnly isBlank : Bool) :
    let verdict := journalVerdict isReadOnly isBlank (tree.node? (beside names journalEnding))
    journalVerdict isReadOnly isBlank
        ((tree.cleared names journalEnding verdict.2).node? (beside names journalEnding)) =
      (verdict.1, false) := by
  intro verdict
  cases removes : verdict.2 with
  | false => exact Prod.ext rfl removes
  | true =>
      rw [cleared, if_pos rfl, node?_withoutNode_beside some, if_pos rfl,
        (journalVerdict_removes removes).1]
      rfl

theorem logVerdict_cleared (tree : FileTree) (some : names ≠ []) (mayBeThere isBlank : Bool) :
    let verdict := logVerdict mayBeThere isBlank (tree.node? (beside names logEnding))
    logVerdict mayBeThere isBlank
        ((tree.cleared names logEnding verdict.2).node? (beside names logEnding)) =
      (verdict.1, false) := by
  intro verdict
  cases removes : verdict.2 with
  | false => exact Prod.ext rfl removes
  | true =>
      rw [cleared, if_pos rfl, node?_withoutNode_beside some, if_pos rfl,
        (logVerdict_removes removes).1]
      rfl

/-- **Looking again comes to the same**, and finds nothing more to remove. -/
theorem settle_settle (tree : FileTree) (name : DatabaseName) (some : names ≠ []) :
    (tree.settle name names).2.settle name names = tree.settle name names := by
  cases fixed : name.immutable with
  | true => rw [settle, settle, if_pos fixed, if_pos fixed]
  | false =>
      have isBlank := isBlank_congr (tree.node?_settle name some)
      have journalAgain := tree.journalVerdict_cleared some name.isReadOnly (tree.isBlank names)
      rw [settle_eq _ fixed some, isBlank]
      rw [settle_eq tree fixed some]
      cases lock : lockVerdict name names (tree.node? (beside names lockEnding)).isSome with
      | error cause =>
          dsimp only
          rw [lock]
      | ok done =>
          dsimp only
          generalize journalVerdict name.isReadOnly (tree.isBlank names)
            (tree.node? (beside names journalEnding)) = journal at journalAgain ⊢
          obtain ⟨cause | _, removes⟩ := journal
          · dsimp only at journalAgain ⊢
            rw [node?_cleared_beside some _ (by decide), lock]
            dsimp only
            rw [journalAgain]
            rfl
          · dsimp only at journalAgain ⊢
            have logAgain := (tree.cleared names journalEnding removes).logVerdict_cleared some
              name.mayHaveLog (tree.isBlank names)
            rw [node?_cleared_beside some _ (by decide)] at logAgain
            dsimp only at logAgain
            rw [node?_cleared_beside some _ (by decide), node?_cleared_beside some _ (by decide),
              lock]
            dsimp only
            rw [node?_cleared_beside some _ (by decide), journalAgain]
            dsimp only
            rw [logAgain]
            rfl

/-! ## Files that are looked at no more -/

/-- The engine has looked at the companions of a file, and left them as they are. -/
def Settled (tree : FileTree) (name : DatabaseName) (names : List String) : Prop :=
  tree.settle name names = (.ok (), tree)

theorem settled_of_settle (some : names ≠ []) {after : FileTree}
    (came : tree.settle name names = (.ok (), after)) : after.Settled name names := by
  have again := tree.settle_settle name some
  rwa [came] at again

/-- What is known of companions that are left as they are. -/
theorem Settled.verdicts (settled : tree.Settled name names) (fixed : name.immutable = false)
    (some : names ≠ []) :
    lockVerdict name names (tree.node? (beside names lockEnding)).isSome = .ok () ∧
      (journalVerdict name.isReadOnly (tree.isBlank names)
        (tree.node? (beside names journalEnding))).1 = .ok () ∧
      logVerdict name.mayHaveLog (tree.isBlank names) (tree.node? (beside names logEnding)) =
        (.ok (), false) := by
  rw [Settled, settle_eq tree fixed some] at settled
  cases lock : lockVerdict name names (tree.node? (beside names lockEnding)).isSome with
  | error cause =>
      rw [lock] at settled
      cases settled
  | ok done =>
      rw [lock] at settled
      dsimp only at settled
      split at settled
      · cases settled
      · rename_i journal
        refine ⟨rfl, journal, ?_⟩
        obtain ⟨said, left⟩ := Prod.mk.inj settled
        have again := (tree.cleared names journalEnding (journalVerdict name.isReadOnly
            (tree.isBlank names) (tree.node? (beside names journalEnding))).2).logVerdict_cleared
          some name.mayHaveLog (tree.isBlank names)
        rw [node?_cleared_beside some _ (by decide)] at again
        dsimp only at again
        rwa [left, said] at again

/-- **Where nothing was left to do, there is nothing to do when a database is written to the
file.** -/
theorem Settled.withContent (settled : tree.Settled name names) (some : names ≠ [])
    (content : Database) : (tree.withContent names content).Settled name names := by
  cases fixed : name.immutable with
  | true => rw [Settled, settle, if_pos fixed]
  | false =>
      obtain ⟨lock, _, log⟩ := settled.verdicts fixed some
      have blank : (tree.withContent names content).isBlank names = false := by
        rw [isBlank, FileTree.withContent, node?_withoutNode_self some (by decide),
          node?_withNode_self some]
      have journalGone : (tree.withContent names content).node? (beside names journalEnding) =
          none := by
        rw [FileTree.withContent, node?_withoutNode_beside some, if_pos rfl]
      have others {ending : String} (longer : ending ≠ "") (apart : ending ≠ journalEnding) :
          (tree.withContent names content).node? (beside names ending) =
            tree.node? (beside names ending) := by
        rw [FileTree.withContent, node?_withoutNode_beside some, if_neg apart,
          node?_withNode_beside some longer]
      rw [Settled, settle_eq _ fixed some, blank, journalGone, others (by decide) (by decide),
        others (by decide) (by decide), lock]
      dsimp only [journalVerdict, cleared]
      rw [logVerdict_of_left log]
      rfl

/-! ## Files that are written -/

/-- A file holds what was written to it. -/
theorem content_withContent (some : names ≠ []) (content : Database) :
    (tree.withContent names content).content names = .ok content := by
  rw [FileTree.content, withContent, node?_withoutNode_self some (by decide),
    node?_withNode_self some]

/-- A file holds what it should. -/
theorem content_keep (some : names ≠ []) (content : Database) :
    (tree.keep (Option.some names) content).content names = .ok content := by
  rw [keep]
  split
  · rename_i held found
    split
    · rename_i same
      rw [found, same]
    · exact content_withContent some content
  · exact content_withContent some content

/-- Nothing is written where the file holds that already. -/
theorem keep_of_held {content : Database} (held : tree.content names = .ok content) :
    tree.keep (Option.some names) content = tree := by
  rw [keep, held]
  exact if_pos rfl

theorem keepsDirectories_withContent (some : names ≠ [])
    (file : tree.node? names ≠ Option.some .directory)
    (journal : tree.node? (beside names journalEnding) ≠ Option.some .directory)
    (content : Database) : tree.KeepsDirectories (tree.withContent names content) := by
  refine (keepsDirectories_withNode some (.database content) file).trans
    (keepsDirectories_withoutNode (beside_ne_nil some _) ?_)
  rwa [node?_withNode_beside some (by decide)]

end FileTree

end ScopedStore
