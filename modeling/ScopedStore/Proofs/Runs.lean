import ScopedStore.Proofs.Pending
import ScopedStore.Proofs.Versions

/-!
# Runs of several transactions

A value outlives the transaction in which a caller got it, so a run is not a run of moves alone:
between two transactions the handle is given up for a new one on the committed content, which has
no scopes and remembers nothing (`Act.transact`). What a transaction of a store does is a part of
such a run (`Store.attempt_live`).

The journal goes on from one transaction to the next with what is in effect on a single page. At
every point the writes in effect tell how the content came about from the one with which the run
began (`Handle.Lives.live`): each of them was made to what the earlier ones had left
(`Becomes`). So the row of an object is the one that its last write in effect has left, and its
version grows with the updates of it that are in effect.
-/

set_option autoImplicit false

namespace ScopedStore

/-! ## Acts -/

/-- One thing that is done in a run: a move, or the end of a transaction and the beginning of the
next one, outside of all scopes. -/
inductive Act : Type 1
  | move (move : Move)
  | transact (tracked : Bool) (ids : IdSource) (now : Int)

/-- What an act has done. -/
inductive Happening
  | did (deed : Deed)
  | began
  deriving DecidableEq

namespace Handle

/-- The handle after an act. -/
def act (handle : Handle) : Act → Handle
  | .move move => handle.move move
  | .transact tracked ids now =>
      if handle.depth = 0 then start handle.content tracked ids now else handle

/-- The handle after some acts. -/
def live (handle : Handle) (acts : List Act) : Handle := acts.foldl act handle

def happening (handle : Handle) : Act → Happening
  | .move move => .did (handle.deed move)
  | .transact _ _ _ => if handle.depth = 0 then .began else .did .quiet

/-- All that happens in some acts. -/
def story (handle : Handle) : List Act → List Happening
  | [] => []
  | first :: rest => handle.happening first :: (handle.act first).story rest

@[simp] theorem live_nil (handle : Handle) : handle.live [] = handle := rfl

@[simp] theorem live_cons (handle : Handle) (first : Act) (rest : List Act) :
    handle.live (first :: rest) = (handle.act first).live rest := rfl

@[simp] theorem story_nil (handle : Handle) : handle.story [] = [] := rfl

@[simp] theorem story_cons (handle : Handle) (first : Act) (rest : List Act) :
    handle.story (first :: rest) = handle.happening first :: (handle.act first).story rest := rfl

theorem live_append (handle : Handle) (first second : List Act) :
    handle.live (first ++ second) = (handle.live first).live second :=
  List.foldl_append

theorem story_append (handle : Handle) (first second : List Act) :
    handle.story (first ++ second) = handle.story first ++ (handle.live first).story second := by
  induction first generalizing handle with
  | nil => rfl
  | cons act rest ih => simp [ih]

/-- Moves are acts. -/
theorem live_moves (handle : Handle) (moves : List Move) :
    handle.live (moves.map .move) = handle.play moves := by
  induction moves generalizing handle with
  | nil => rfl
  | cons move rest ih => exact ih (handle.move move)

namespace Lockstep

variable {handle : Handle} {motive : List Happening → Handle → Prop}

theorem live_induction_after
    (step : ∀ {past : List Happening} {deed : Deed} {before after : Handle}, before.Lockstep →
      Does deed before after → motive past before → motive (past ++ [.did deed]) after)
    (begin : ∀ {past : List Happening} {before : Handle} (tracked : Bool) (ids : IdSource)
      (now : Int), before.Lockstep → before.depth = 0 → motive past before →
        motive (past ++ [.began]) (start before.content tracked ids now))
    (past : List Happening) (lockstep : handle.Lockstep) (now : motive past handle)
    (acts : List Act) : motive (past ++ handle.story acts) (handle.live acts) := by
  induction acts generalizing handle past with
  | nil => simpa using now
  | cons first rest ih =>
      have next : (handle.act first).Lockstep ∧
          motive (past ++ [handle.happening first]) (handle.act first) := by
        cases first with
        | move move =>
            have does := lockstep.does_move move
            exact ⟨does.lockstep lockstep, step lockstep does now⟩
        | transact tracked ids time =>
            simp only [act, happening]
            split
            · rename_i outside
              exact ⟨lockstep_start _ _ _ _, begin tracked ids time lockstep outside now⟩
            · exact ⟨lockstep, step lockstep (.quiet handle handle.ids handle.log) now⟩
      simpa using ih _ next.1 next.2

/-- **What every deed and every new transaction keeps, every run keeps.** -/
theorem live_induction
    (step : ∀ {past : List Happening} {deed : Deed} {before after : Handle}, before.Lockstep →
      Does deed before after → motive past before → motive (past ++ [.did deed]) after)
    (begin : ∀ {past : List Happening} {before : Handle} (tracked : Bool) (ids : IdSource)
      (now : Int), before.Lockstep → before.depth = 0 → motive past before →
        motive (past ++ [.began]) (start before.content tracked ids now))
    (lockstep : handle.Lockstep) (now : motive [] handle) (acts : List Act) :
    motive (handle.story acts) (handle.live acts) :=
  live_induction_after step begin [] lockstep now acts

end Lockstep

end Handle

/-- **A transaction of a store is a part of a run.** It begins on the committed content and does
what its work does in one scope, which is kept if the transaction is committed and discarded
otherwise; and outside of all scopes it leaves the committed content. -/
theorem Store.attempt_live (store : Store) (tracked : Bool) {α : Type} (work : Work α)
    (ending : α → Ending) :
    let start := Handle.start store.database tracked store.ids store.now
    ∃ last : Move, (last = .keepScope ∨ last = .discardScope) ∧
      ∀ handle : Handle, handle.depth = 0 → handle.content = store.database →
        let after := handle.live (.transact tracked store.ids store.now ::
          (.openScope :: work.moves start.openScope ++ [last]).map .move)
        after.depth = 0 ∧ after.content = (store.attempt tracked work ending).2.database := by
  intro start
  have lockstep : start.Lockstep := Handle.lockstep_start store.database tracked store.ids store.now
  obtain ⟨inside, below, _⟩ := lockstep.inside work
  have depth : (work.run start.openScope).2.depth = 1 := below.depth
  have played (last : Move) (handle : Handle) (outside : handle.depth = 0)
      (content : handle.content = store.database) :
      handle.live (.transact tracked store.ids store.now ::
          (.openScope :: work.moves start.openScope ++ [last]).map .move) =
        (work.run start.openScope).2.move last := by
    rw [Handle.live_cons, Handle.live_moves, Handle.act, if_pos outside, content,
      List.cons_append, Handle.play_cons, Handle.play_append, work.run_eq_play]
    rfl
  by_cases committed : (store.attempt tracked work ending).1.Committed ending
  · refine ⟨.keepScope, .inl rfl, fun handle outside content => ?_⟩
    rw [played .keepScope handle outside content, Handle.move,
      inside.commitScope_of_open (depth ▸ Nat.one_pos)]
    have taken := (store.attempt_of_committed tracked work ending committed).2
    exact ⟨congrArg (· - 1) depth, taken.symm⟩
  · refine ⟨.discardScope, .inr rfl, fun handle outside content => ?_⟩
    obtain ⟨_, ids, log, after⟩ := store.attempt_of_failed tracked work ending committed
    have undone := lockstep.sameData_abandonScope work
    rw [played .discardScope handle outside content, Handle.move, after]
    exact ⟨undone.depth, undone.content⟩

/-! ## How a content comes about -/

/-- Each of the writes, of which the last one is first, was made to what the earlier ones had
left, from the first content to the present one. -/
inductive Becomes (first : Database) : List Write → Database → Prop
  | nil : Becomes first [] first
  | cons {write : Write} {earlier : List Write} {middle : Database}
      (rest : Becomes first earlier middle) (fits : write.Fits middle) (now : Int) :
      Becomes first (write :: earlier) (write.apply now middle)

/-- The writes of an object. -/
def writesOf (ref : Ref) (writes : List Write) : List Write :=
  writes.filter fun write => decide (write.ref = ref)

/-- The number of updates among some writes. -/
def updates : List Write → Nat
  | [] => 0
  | .updated _ :: earlier => updates earlier + 1
  | .inserted _ :: earlier | .deleted _ :: earlier => updates earlier

theorem updates_append (later earlier : List Write) :
    updates (later ++ earlier) = updates later + updates earlier := by
  induction later with
  | nil => exact (Nat.zero_add _).symm
  | cons write rest ih =>
      cases write with
      | updated record =>
          rw [List.cons_append, updates, updates, ih]
          omega
      | inserted record | deleted ref => exact ih

@[simp] theorem writesOf_append (ref : Ref) (later earlier : List Write) :
    writesOf ref (later ++ earlier) = writesOf ref later ++ writesOf ref earlier :=
  List.filter_append _ _

theorem writesOf_cons_of_eq {ref : Ref} {write : Write} (same : write.ref = ref)
    (earlier : List Write) : writesOf ref (write :: earlier) = write :: writesOf ref earlier := by
  simp [writesOf, same]

theorem writesOf_cons_of_ne {ref : Ref} {write : Write} (other : write.ref ≠ ref)
    (earlier : List Write) : writesOf ref (write :: earlier) = writesOf ref earlier := by
  simp [writesOf, other]

theorem mem_writesOf {ref : Ref} {write : Write} {writes : List Write} :
    write ∈ writesOf ref writes ↔ write ∈ writes ∧ write.ref = ref := by
  simp [writesOf]

namespace Becomes

variable {first middle last now : Database} {writes earlier later : List Write}

theorem trans (before : Becomes first earlier middle) (after : Becomes middle later last) :
    Becomes first (later ++ earlier) last := by
  induction after with
  | nil => exact before
  | cons rest fits now ih => exact ih.cons fits now

theorem split (becomes : Becomes first (later ++ earlier) last) :
    ∃ middle, Becomes first earlier middle ∧ Becomes middle later last := by
  induction later generalizing last with
  | nil => exact ⟨last, becomes, .nil⟩
  | cons write later ih =>
      cases becomes with
      | cons rest fits now =>
          obtain ⟨middle, before, after⟩ := ih rest
          exact ⟨middle, before, after.cons fits now⟩

/-- **The row of an object is the one that its last write has left.** -/
theorem row?_eq (becomes : Becomes first writes now) (ref : Ref) :
    now.row? ref = ((writesOf ref writes).head?.map Write.row?).getD (first.row? ref) := by
  induction becomes with
  | nil => rfl
  | @cons write earlier middle rest fits time ih =>
      rw [Write.row?_apply fits]
      by_cases here : write.ref = ref
      · rw [if_pos here.symm, writesOf_cons_of_eq here]
        rfl
      · rw [if_neg fun same => here same.symm, writesOf_cons_of_ne here, ih]

/-- No write adds a table or takes one away. -/
theorem isSome_table (becomes : Becomes first writes now) (kind : Kind) :
    (now.tables.get? kind).isSome = (first.tables.get? kind).isSome := by
  induction becomes with
  | nil => rfl
  | cons rest fits time ih => exact (Write.isSome_table_apply fits time kind).trans ih

/-- No write takes a table away. -/
theorem complete (becomes : Becomes first writes now) (complete : first.Complete) :
    now.Complete := by
  induction becomes with
  | nil => exact complete
  | cons rest fits time ih => exact ih.apply time fits

/-- **The version of an object that is not deleted grows with its updates.** -/
theorem standing_eq (becomes : Becomes first writes now) {ref : Ref}
    (stays : .deleted ref ∉ writes) :
    now.standing ref = first.standing ref + updates (writesOf ref writes) := by
  induction becomes with
  | nil => simp [writesOf, updates]
  | @cons write earlier middle rest fits time ih =>
      rw [List.mem_cons, not_or] at stays
      have before := ih stays.2
      by_cases here : write.ref = ref
      · rw [writesOf_cons_of_eq here]
        cases write with
        | inserted record => exact (Write.standing_apply_inserted fits time ref).trans before
        | updated record =>
            have address : record.ref = ref := here
            subst address
            obtain ⟨old, new⟩ := Write.standing_apply_updated fits time
            rw [new, updates]
            omega
        | deleted gone => exact absurd (congrArg Write.deleted here).symm stays.1
      · rw [writesOf_cons_of_ne here,
          Write.standing_apply_of_ne fits time fun same => here same.symm]
        exact before

/-- An object that has a row and is not deleted has its row always, and is not stored again. -/
theorem not_inserted (becomes : Becomes first writes now) {ref : Ref}
    (stays : .deleted ref ∉ writes) (stored : (first.row? ref).isSome) :
    (now.row? ref).isSome ∧ ∀ record, .inserted record ∈ writes → record.ref ≠ ref := by
  induction becomes with
  | nil => exact ⟨stored, nofun⟩
  | @cons write earlier middle rest fits time ih =>
      rw [List.mem_cons, not_or] at stays
      obtain ⟨before, others⟩ := ih stays.2
      refine ⟨?_, fun record member same => ?_⟩
      · rw [Write.row?_apply fits]
        split
        · rename_i here
          cases write with
          | inserted record | updated record => rfl
          | deleted gone => exact absurd (congrArg Write.deleted here) stays.1
        · exact before
      · rcases List.mem_cons.1 member with rfl | member
        · cases fits with
          | inserted found free version =>
              rw [same] at free
              rw [free] at before
              cases before
        · exact others record member same

end Becomes

/-! ## Journals of runs -/

namespace Journal

/-- The journal after something happened. A new transaction has nothing to go back to. -/
def next (journal : Journal) : Happening → Journal
  | .did deed => journal.after deed
  | .began => ⟨[journal.inEffect], []⟩

/-- The journal after all of a story. -/
def through (journal : Journal) (story : List Happening) : Journal := story.foldl next journal

theorem through_append (journal : Journal) (first second : List Happening) :
    journal.through (first ++ second) = (journal.through first).through second :=
  List.foldl_append

theorem through_concat (journal : Journal) (story : List Happening) (happening : Happening) :
    journal.through (story ++ [happening]) = (journal.through story).next happening :=
  journal.through_append story [happening]

theorem mem_inEffect_after {journal : Journal} {deed : Deed} {write : Write}
    (member : write ∈ (journal.after deed).inEffect) :
    deed = .wrote write ∨ write ∈ journal.inEffect := by
  obtain ⟨pages, entries⟩ := journal
  cases deed with
  | quiet | recorded change => exact .inr member
  | wrote other =>
      cases pages with
      | nil => exact .inr member
      | cons page outer =>
          rcases List.mem_cons.1 member with rfl | before
          · exact .inl rfl
          · exact .inr before
  | opened => exact .inr member
  | kept =>
      rw [inEffect, after, Pages.flatten_kept] at member
      exact .inr member
  | discarded =>
      cases pages with
      | nil => cases member
      | cons page rest =>
          cases rest with
          | nil => cases member
          | cons outer below => exact .inr (List.mem_append_right page member)

/-- What is in effect was in effect before or was written. -/
theorem mem_story_of_inEffect {journal : Journal} {story : List Happening} {write : Write}
    (member : write ∈ (journal.through story).inEffect) :
    .did (.wrote write) ∈ story ∨ write ∈ journal.inEffect := by
  induction story generalizing journal with
  | nil => exact .inr member
  | cons happening story ih =>
      rcases ih member with later | now
      · exact .inl (List.mem_cons_of_mem _ later)
      · cases happening with
        | did deed =>
            refine (mem_inEffect_after now).imp_left fun wrote => ?_
            exact wrote ▸ List.mem_cons_self
        | began => exact .inr (by simpa [next, inEffect] using now)

end Journal

namespace Handle

/-- A point of a run that began with some content. The pages tell, scope by scope, how the contents
came about. -/
structure Lives (first : Database) (handle : Handle) (journal : Journal) : Prop where
  lockstep : handle.Lockstep
  follows : handle.Follows journal
  layers : Layered Becomes journal.pages (handle.saved ++ [first]) handle.content

variable {first : Database} {before after : Handle} {journal : Journal}

theorem lives_start (content : Database) (tracked : Bool) (ids : IdSource) (now : Int) :
    (start content tracked ids now).Lives content .blank where
  lockstep := lockstep_start content tracked ids now
  follows := follows_start content tracked ids now
  layers := .cons .nil (.nil content)

/-- A deed changes the pages as it changes the contents. -/
theorem Does.layers {deed : Deed} (does : Does deed before after) (lockstep : before.Lockstep)
    (layers : Layered Becomes journal.pages (before.saved ++ [first]) before.content) :
    Layered Becomes (journal.after deed).pages (after.saved ++ [first]) after.content := by
  obtain ⟨pages, entries⟩ := journal
  cases does with
  | quiet ids log => exact layers
  | recorded _ change => exact layers
  | @wrote _ write fits =>
      rw [saved_wrote, content_wrote]
      obtain ⟨page, outer, rfl⟩ := layers.exists_record (by simp)
      exact layers.step fun saved becomes => becomes.cons fits before.now
  | opened => exact layers.opened .nil
  | kept opened =>
      rw [saved_of_dropped lockstep opened] at layers
      obtain ⟨page, outer, below, rfl⟩ := layers.exists_records (by simp)
      rw [content_kept, saved_kept, saved_of_dropped lockstep opened, List.tail_cons]
      exact layers.kept fun _ before after => before.trans after
  | discarded opened =>
      rw [saved_of_dropped lockstep opened] at layers
      obtain ⟨page, outer, below, rfl⟩ := layers.exists_records (by simp)
      exact layers.dropped

theorem Does.lives {deed : Deed} (does : Does deed before after)
    (lives : before.Lives first journal) : after.Lives first (journal.after deed) where
  lockstep := does.lockstep lives.lockstep
  follows := does.follows lives.lockstep lives.follows
  layers := does.layers lives.lockstep lives.layers

/-- Page by page the writes lead from the first content to the present one. -/
theorem becomes_of_layers {contents : List Database} {pages : List (List Write)} {now : Database}
    (layers : Layered Becomes pages (contents ++ [first]) now) :
    Becomes first pages.flatten now := by
  induction contents generalizing pages now with
  | nil =>
      cases layers with
      | cons inner outer =>
          cases outer with
          | nil => simpa using inner
  | cons saved contents ih =>
      cases layers with
      | cons inner outer => exact (ih outer).trans inner

/-- **The writes in effect tell how the content came about.** -/
theorem Lives.becomes {handle : Handle} (lives : handle.Lives first journal) :
    Becomes first journal.inEffect handle.content :=
  becomes_of_layers lives.layers

/-- **What was done outside of all scopes is never undone**: from there on the content comes about
by writes alone. -/
theorem Lockstep.becomes_since {handle : Handle} (lockstep : handle.Lockstep)
    (outside : handle.depth = 0) (acts : List Act) :
    ∃ writes, Becomes handle.content writes (handle.live acts).content := by
  have closed : handle.saved = [] := by
    have names := lockstep.savepoints
    rw [outside, savepointNames, List.map_eq_nil_iff] at names
    rw [saved, names, List.map_nil]
  have layered : ∃ journal : Journal, Layered Becomes journal.pages
      ((handle.live acts).saved ++ [handle.content]) (handle.live acts).content := by
    refine lockstep.live_induction (motive := fun _ later => ∃ journal : Journal,
      Layered Becomes journal.pages (later.saved ++ [handle.content]) later.content) ?_ ?_ ?_ acts
    · rintro past deed before after lockstep does ⟨journal, layers⟩
      exact ⟨_, does.layers lockstep layers⟩
    · rintro past before tracked ids now _ _ ⟨journal, layers⟩
      exact ⟨⟨[journal.inEffect], []⟩, .cons (becomes_of_layers layers) (.nil _)⟩
    · refine ⟨.blank, ?_⟩
      rw [closed]
      exact .cons .nil (.nil _)
  obtain ⟨journal, layers⟩ := layered
  exact ⟨_, becomes_of_layers layers⟩

/-- A new transaction goes on from the committed content. -/
theorem Lives.began (lives : before.Lives first journal) (tracked : Bool) (ids : IdSource)
    (now : Int) : (start before.content tracked ids now).Lives first (journal.next .began) where
  lockstep := lockstep_start _ _ _ _
  follows := ⟨.outside _, fun _ => rfl⟩
  layers := .cons lives.becomes (.nil first)

/-- **Every point of a run is told by its journal.** -/
theorem Lives.live {handle : Handle} (lives : handle.Lives first journal) (acts : List Act) :
    (handle.live acts).Lives first (journal.through (handle.story acts)) := by
  refine lives.lockstep.live_induction
    (motive := fun past handle => handle.Lives first (journal.through past)) ?_ ?_ lives acts
  · intro past deed before after _ does lives
    rw [Journal.through_concat]
    exact does.lives lives
  · intro past before tracked ids time _ _ lives
    rw [Journal.through_concat]
    exact lives.began tracked ids time

end Handle

/-! ## Later journals -/

namespace Journal

/-- A journal, and one that was begun later between the same happenings: what the later one has in
effect is in effect, and behind it some of what was in effect when it was begun, without what was
written last. -/
structure Extends (start : List Write) (journal later : Journal) : Prop where
  covers : Covers journal.pages later.pages
  rest : ∃ rest, journal.inEffect = later.inEffect ++ rest ∧ rest <:+ start

variable {start : List Write} {journal later : Journal}

theorem extends_blank (begun : journal.pages ≠ []) : Extends journal.inEffect journal blank where
  covers := .of_ne_nil begun
  rest := ⟨journal.inEffect, rfl, List.suffix_refl _⟩

/-- A deed changes nothing of what lies behind the later journal but by taking it away. -/
theorem Covers.rest_after {journal later : Journal} (covers : Covers journal.pages later.pages)
    {rest : List Write} (split : journal.inEffect = later.inEffect ++ rest) (deed : Deed) :
    ∃ rest', (journal.after deed).inEffect = (later.after deed).inEffect ++ rest' ∧
      rest' <:+ rest := by
  obtain ⟨pages, entries⟩ := journal
  obtain ⟨laterPages, laterEntries⟩ := later
  dsimp only at covers
  cases deed with
  | quiet | recorded change | opened => exact ⟨rest, split, List.suffix_refl rest⟩
  | wrote write =>
      refine ⟨rest, ?_, List.suffix_refl rest⟩
      cases covers with
      | outside page earlier below => exact congrArg (write :: ·) split
      | scope page covers => exact congrArg (write :: ·) split
  | kept =>
      refine ⟨rest, ?_, List.suffix_refl rest⟩
      rw [inEffect, inEffect, Journal.after, Journal.after, Pages.flatten_kept,
        Pages.flatten_kept]
      exact split
  | discarded =>
      cases covers with
      | outside page earlier below =>
          have same : rest = earlier ++ below.flatten := by
            simpa [inEffect, List.append_assoc] using split.symm
          cases below with
          | nil => exact ⟨[], rfl, List.nil_suffix⟩
          | cons outer below => exact ⟨_, rfl, same ▸ List.suffix_append earlier _⟩
      | @scope pages laterPages page covers =>
          have behind : pages.flatten = laterPages.flatten ++ rest := by
            simpa [inEffect, List.append_assoc] using split
          refine ⟨rest, ?_, List.suffix_refl rest⟩
          cases covers with
          | outside outer earlier below => exact behind
          | scope outer covers => exact behind

theorem Extends.next (begins : Extends start journal later) (happening : Happening) :
    Extends start (journal.next happening) (later.next happening) := by
  obtain ⟨rest, split, suffix⟩ := begins.rest
  cases happening with
  | did deed =>
      obtain ⟨rest', split', suffix'⟩ := begins.covers.rest_after split deed
      exact ⟨begins.covers.after deed, rest', split', suffix'.trans suffix⟩
  | began =>
      refine ⟨?_, rest, ?_, suffix⟩
      · simp only [Journal.next, split]
        exact .outside _ rest []
      · simpa [Journal.next, inEffect] using split

/-- **What is in effect is what was written since, and some of what was in effect before.** -/
theorem Extends.through (begins : Extends start journal later) (story : List Happening) :
    Extends start (journal.through story) (later.through story) := by
  induction story generalizing journal later with
  | nil => exact begins
  | cons happening story ih => exact ih (begins.next happening)

end Journal

end ScopedStore
