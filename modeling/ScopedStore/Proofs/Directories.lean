import ScopedStore.Database.Link
import ScopedStore.Proofs.SortedMap

/-!
# Ways that stay open

A directory that stands in a tree stands there still after most of what is done to the tree
(`FileTree.KeepsDirectories`). Then a walk that came through comes through again, and to the same
place (`FileTree.walk_of_keeps`).

Making the directory at a path leaves one there, and where there is one nothing is made
(`FileTree.isDirectory_of_makeDirectories`, `FileTree.makeDirectories_of_isDirectory`).

The way of the engine to a file is not a walk: it looks at other places, and its answer depends on
what stands there. But if there is a directory at the path around that of the file, the two go the
same way up to the last piece. So the engine finds the same place as long as directories stay
(`FileTree.resolve_of_keeps`).
-/

set_option autoImplicit false

namespace ScopedStore

/-! ## Pieces of paths -/

theorem Text.piecesAt_eq_splitOn (mark : Char) (characters : List Char) :
    piecesAt mark characters = characters.splitOn mark := by
  induction characters with
  | nil => rfl
  | cons first rest ih =>
      rw [piecesAt, ih, List.splitOn, List.splitOn, List.splitOnP_cons_eq_if_modifyHead]
      by_cases same : first = mark
      · simp [same]
      · cases split : List.splitOnP (fun character => character == mark) rest with
        | nil => exact absurd split (List.splitOnP_ne_nil _ _)
        | cons piece later => simp [same]

theorem Text.not_mem_piecesAt (mark : Char) {characters piece : List Char}
    (member : piece ∈ piecesAt mark characters) : mark ∉ piece := by
  induction characters generalizing piece with
  | nil =>
      obtain rfl := List.mem_singleton.1 member
      exact List.not_mem_nil
  | cons first rest ih =>
      rw [piecesAt] at member
      by_cases same : first = mark
      · rw [if_pos same] at member
        rcases List.mem_cons.1 member with rfl | later
        · exact List.not_mem_nil
        · exact ih later
      · rw [if_neg same] at member
        cases split : piecesAt mark rest with
        | nil =>
            rw [split] at member
            obtain rfl := List.mem_singleton.1 member
            exact fun here => same (List.mem_singleton.1 here).symm
        | cons head tail =>
            rw [split] at member
            rcases List.mem_cons.1 member with rfl | later
            · intro here
              rcases List.mem_cons.1 here with equal | inside
              · exact same equal.symm
              · exact ih (split ▸ List.mem_cons_self) inside
            · exact ih (split ▸ List.mem_cons_of_mem _ later)

namespace Path

theorem not_mem_of_mem_pieces {path piece : String} (member : piece ∈ pieces path) :
    '/' ∉ piece.toList := by
  obtain ⟨characters, inside, rfl⟩ := List.mem_map.1 member
  rw [String.toList_ofList]
  exact Text.not_mem_piecesAt '/' inside

/-- The pieces of an absolute path, and the empty one in front of the first slash. -/
theorem pieces_ofPieces {names : List String} (plain : ∀ name ∈ names, '/' ∉ name.toList)
    (some : names ≠ []) : pieces (ofPieces true names) = "" :: names := by
  have characters : (ofPieces true names).toList =
      '/' :: ['/'].intercalate (names.map String.toList) := by
    rw [ofPieces, if_pos rfl, String.toList_append, String.toList_intercalate]
    rfl
  have split : ('/' :: ['/'].intercalate (names.map String.toList)).splitOn '/' =
      [] :: names.map String.toList := by
    rw [List.splitOn, List.splitOnP_cons_eq_if_modifyHead, if_pos (by simp)]
    refine congrArg _ (List.splitOn_intercalate '/' ?_ (by simpa using some))
    intro piece member
    obtain ⟨name, inside, rfl⟩ := List.mem_map.1 member
    exact plain name inside
  rw [pieces, characters, Text.piecesAt_eq_splitOn, split, List.map_cons, List.map_map]
  simp

theorem components_ofPieces {names : List String} (plain : ∀ name ∈ names, '/' ∉ name.toList) :
    components (ofPieces true names) = names.filter fun piece => !isIdle piece := by
  by_cases some : names = []
  · subst some
    decide
  · rw [components, pieces_ofPieces plain some, List.filter_cons_of_neg (by decide)]

theorem isAbsolute_ofPieces (names : List String) : isAbsolute (ofPieces true names) = true := by
  rw [isAbsolute, ofPieces, if_pos rfl, String.toList_append]
  rfl

/-- The directory around some pieces, which are given from the last one on, is that of the pieces
behind the first one that means something. -/
theorem head?_around (absolute : Bool) (reversed : List String) :
    (around absolute reversed).head? =
      match reversed.dropWhile isIdle with
      | [] => none
      | _ :: outer =>
          some (ofPieces absolute (match (outer.dropWhile isIdle).reverse with
            | "" :: rest => rest
            | other => other)) := by
  induction reversed with
  | nil => rfl
  | cons piece outer ih =>
      rw [around, List.dropWhile_cons]
      by_cases idle : isIdle piece = true
      · rw [if_pos idle, if_pos idle, ih]
      · rw [if_neg idle, if_neg idle]
        rfl

theorem filter_dropWhile_isIdle (pieces : List String) :
    (pieces.dropWhile isIdle).filter (fun piece => !isIdle piece) =
      pieces.filter fun piece => !isIdle piece := by
  induction pieces with
  | nil => rfl
  | cons piece rest ih =>
      by_cases idle : isIdle piece = true
      · rw [List.dropWhile_cons, if_pos idle, ih, List.filter_cons_of_neg (by simp [idle])]
      · rw [List.dropWhile_cons, if_neg idle]

/-- **The directory around an absolute path is told by all of its components but the last.** -/
theorem components_parent {path directory : String} (absolute : isAbsolute path = true)
    (parent : parent? path = some directory) :
    isAbsolute directory = true ∧ components directory = (components path).dropLast := by
  rw [parent?, parents, absolute, head?_around] at parent
  cases dropped : (pieces path).reverse.dropWhile isIdle with
  | nil =>
      rw [dropped] at parent
      cases parent
  | cons last outer =>
      rw [dropped] at parent
      obtain rfl := Option.some.inj parent
      refine ⟨isAbsolute_ofPieces _, ?_⟩
      -- Leaving out what means nothing first makes no difference to the components.
      have reversed : (components path).reverse =
          last :: outer.filter fun piece => !isIdle piece := by
        have plain : isIdle last = false := by
          have head := List.head?_dropWhile_not isIdle (pieces path).reverse
          rw [dropped] at head
          simpa using head
        rw [components, ← List.filter_reverse, ← filter_dropWhile_isIdle, dropped,
          List.filter_cons_of_pos (by simp [plain])]
      have whole := congrArg List.reverse reversed
      rw [List.reverse_reverse, List.reverse_cons] at whole
      rw [whole, List.dropLast_concat]
      have inside : ∀ piece ∈ (outer.dropWhile isIdle).reverse, '/' ∉ piece.toList := by
        intro piece member
        have later : piece ∈ (pieces path).reverse.dropWhile isIdle := by
          rw [dropped]
          exact List.mem_cons_of_mem _
            ((List.dropWhile_sublist _).subset (List.mem_reverse.1 member))
        exact not_mem_of_mem_pieces
          (List.mem_reverse.1 ((List.dropWhile_sublist _).subset later))
      have kept : (outer.dropWhile isIdle).reverse.filter (fun piece => !isIdle piece) =
          (outer.filter fun piece => !isIdle piece).reverse := by
        rw [List.filter_reverse, filter_dropWhile_isIdle]
      rw [← kept]
      split
      · rename_i rest same
        rw [components_ofPieces fun piece member =>
          inside piece (same ▸ List.mem_cons_of_mem _ member), same,
          List.filter_cons_of_neg (by decide)]
      · exact components_ofPieces inside

theorem components_of_no_parent {path : String} (none : parent? path = none) :
    components path = [] := by
  rw [parent?, parents, head?_around] at none
  cases dropped : (pieces path).reverse.dropWhile isIdle with
  | nil =>
      have reversed : (components path).reverse = [] := by
        rw [components, ← List.filter_reverse, ← filter_dropWhile_isIdle, dropped]
        rfl
      exact List.reverse_eq_nil_iff.1 reversed
  | cons last outer =>
      rw [dropped] at none
      cases none

end Path

namespace FileTree

/-! ## Directories that stay -/

/-- Every directory of the first tree is one of the second, and paths begin at the same place. -/
structure KeepsDirectories (first second : FileTree) : Prop where
  workingDirectory : second.workingDirectory = first.workingDirectory
  directories : ∀ key, first.nodes.get? key = some .directory →
    second.nodes.get? key = some .directory

variable {tree first second third : FileTree} {names here there : List String} {path : String}

namespace KeepsDirectories

theorem refl (tree : FileTree) : tree.KeepsDirectories tree := ⟨rfl, fun _ => id⟩

theorem trans (keeps : first.KeepsDirectories second) (later : second.KeepsDirectories third) :
    first.KeepsDirectories third :=
  ⟨later.workingDirectory.trans keeps.workingDirectory,
    fun key found => later.directories key (keeps.directories key found)⟩

theorem node? (keeps : first.KeepsDirectories second)
    (found : first.node? names = some .directory) : second.node? names = some .directory := by
  rw [FileTree.node?] at found ⊢
  by_cases root : names.isEmpty = true
  · rw [if_pos root]
  · rw [if_neg root] at found ⊢
    exact keeps.directories _ found

theorem start (keeps : first.KeepsDirectories second) (path : String) :
    second.start path = first.start path := by
  rw [FileTree.start, FileTree.start, keeps.workingDirectory]

end KeepsDirectories

theorem node?_of_ne_nil (tree : FileTree) (some : names ≠ []) :
    tree.node? names = tree.nodes.get? (place names) := by
  rw [node?, if_neg (by simpa using some)]

/-- Something in the place of what is no directory. -/
theorem keepsDirectories_withNode (some : names ≠ []) (node : FileNode)
    (other : tree.node? names ≠ Option.some .directory) :
    tree.KeepsDirectories (tree.withNode names node) where
  workingDirectory := rfl
  directories key found := by
    rw [node?_of_ne_nil tree some] at other
    have apart : key ≠ place names := by
      rintro rfl
      exact other found
    rwa [withNode, SortedMap.get?_insert, if_neg apart]

/-- Nothing in the place of what is no directory. -/
theorem keepsDirectories_withoutNode (some : names ≠ [])
    (other : tree.node? names ≠ Option.some .directory) :
    tree.KeepsDirectories (tree.withoutNode names) where
  workingDirectory := rfl
  directories key found := by
    rw [node?_of_ne_nil tree some] at other
    have apart : key ≠ place names := by
      rintro rfl
      exact other found
    rwa [withoutNode, SortedMap.get?_erase, if_neg apart]

/-! ## Walking -/

/-- **A walk that came through comes through again**, to the same place. -/
theorem walk_of_keeps (keeps : first.KeepsDirectories second) {pieces : List String}
    (came : first.walk here pieces = .ok there) : second.walk here pieces = .ok there := by
  induction pieces generalizing here with
  | nil => exact came
  | cons piece rest ih =>
      rw [walk] at came ⊢
      split at came
      · rename_i idle
        rw [if_pos idle]
        exact ih came
      · rename_i idle
        rw [if_neg idle]
        split at came
        · rename_i up
          rw [if_pos up]
          exact ih came
        · rename_i up
          rw [if_neg up]
          split at came
          · cases came
          · rename_i long
            rw [if_neg long]
            dsimp only at came ⊢
            cases found : first.node? (here ++ [piece]) with
            | none =>
                rw [found] at came
                cases came
            | some node =>
                rw [found] at came
                cases node with
                | directory =>
                    rw [keeps.node? found]
                    exact ih came
                | text | database => cases came

theorem walk_append (tree : FileTree) (here front back : List String) :
    tree.walk here (front ++ back) =
      (tree.walk here front).bind fun there => tree.walk there back := by
  induction front generalizing here with
  | nil => rfl
  | cons piece rest ih =>
      rw [List.cons_append, walk, walk]
      split
      · exact ih here
      · split
        · exact ih here.dropLast
        · split
          · rfl
          · dsimp only
            cases tree.node? (here ++ [piece]) with
            | none => rfl
            | some node =>
                cases node with
                | directory => exact ih (here ++ [piece])
                | text | database => rfl

/-- Pieces that mean nothing make no difference to a walk. -/
theorem walk_filter (tree : FileTree) (here : List String) {keeps : String → Bool}
    (idle : ∀ piece, keeps piece = false → Path.isIdle piece = true) (pieces : List String) :
    tree.walk here (pieces.filter keeps) = tree.walk here pieces := by
  induction pieces generalizing here with
  | nil => rfl
  | cons piece rest ih =>
      cases kept : keeps piece with
      | false =>
          rw [List.filter_cons_of_neg (by simp [kept]), ih, walk, if_pos (idle piece kept)]
      | true =>
          rw [List.filter_cons_of_pos kept, walk, walk]
          simp only [ih]

theorem isDirectory_iff : tree.isDirectory path = true ↔
    refusal? path = none ∧ ∃ there, tree.walk (tree.start path) (Path.pieces path) = .ok there := by
  rw [isDirectory, directory?]
  cases refusal? path with
  | some cause => exact iff_of_false nofun nofun
  | none =>
      dsimp only
      cases tree.walk (tree.start path) (Path.pieces path) with
      | error cause => exact iff_of_false nofun nofun
      | ok there => exact iff_of_true rfl ⟨rfl, there, rfl⟩

theorem isDirectory_of_keeps (keeps : first.KeepsDirectories second)
    (stands : first.isDirectory path = true) : second.isDirectory path = true := by
  obtain ⟨fine, there, came⟩ := isDirectory_iff.1 stands
  refine isDirectory_iff.2 ⟨fine, there, ?_⟩
  rw [keeps.start]
  exact walk_of_keeps keeps came

/-- A last step into what has a name of its own. -/
theorem walk_last (tree : FileTree) {target : Target} (plain : target.isSpecial = false)
    (short : Path.isNameTooLong target.last = false) :
    tree.walk target.names [target.last] =
      match tree.node? target.whole with
      | some .directory => .ok target.whole
      | some _ => .error .notDirectory
      | none => .error .missing := by
  rw [Target.isSpecial, Bool.or_eq_false_iff, Bool.or_eq_false_iff] at plain
  obtain ⟨⟨full, notSame⟩, notUp⟩ := plain
  rw [walk, Path.isIdle, full, notSame, if_neg (by decide), if_neg (by simpa using notUp),
    if_neg (by simp [short])]
  rfl

/-! ## Making directories -/

/-- Empty pieces mean nothing. -/
theorem walk_named (tree : FileTree) (here pieces : List String) :
    tree.walk here (pieces.filter (· != "")) = tree.walk here pieces := by
  refine walk_filter tree here (fun piece blank => ?_) pieces
  rw [Path.isIdle, bne_eq_false_iff_eq.1 blank]
  rfl

theorem target_eq_ok {target : Target} (leads : tree.target path = .ok target)
    (plain : target.isSpecial = false) :
    refusal? path = none ∧ ∃ before,
      (Path.pieces path).filter (· != "") = before ++ [target.last] ∧
      tree.walk (tree.start path) before = .ok target.names ∧
      Path.isNameTooLong target.last = false := by
  rw [FileTree.target] at leads
  split at leads
  · cases leads
  · cases leads
    cases plain
  · rename_i last before fine reversed
    cases walked : tree.walk (tree.start path) before.reverse with
    | error cause =>
        rw [walked] at leads
        cases leads
    | ok names =>
        rw [walked] at leads
        dsimp only at leads
        split at leads
        · cases leads
        · rename_i short
          cases leads
          refine ⟨fine, before.reverse, ?_, walked, by simpa using short⟩
          rw [← List.reverse_inj, List.reverse_append, List.reverse_reverse, reversed]
          rfl

/-- The path of a directory leads to it, if its name is not too long. -/
theorem target_of_isDirectory (stands : tree.isDirectory path = true) :
    tree.target path = .error .nameTooLong ∨
      ∃ target, tree.target path = .ok target ∧
        (target.isSpecial = true ∨ (tree.node? target.whole).isSome = true) := by
  obtain ⟨fine, there, walked⟩ := isDirectory_iff.1 stands
  rw [target, fine]
  cases reversed : ((Path.pieces path).filter (· != "")).reverse with
  | nil => exact .inr ⟨_, rfl, .inl rfl⟩
  | cons last before =>
      have pieces : (Path.pieces path).filter (· != "") = before.reverse ++ [last] := by
        rw [← List.reverse_inj, reversed, List.reverse_append, List.reverse_reverse]
        rfl
      rw [← walk_named, pieces, walk_append] at walked
      dsimp only
      cases front : tree.walk (tree.start path) before.reverse with
      | error cause =>
          rw [front] at walked
          cases walked
      | ok names =>
          rw [front] at walked
          dsimp only
          by_cases long : Path.isNameTooLong last = true
          · exact .inl (if_pos long)
          · refine .inr ⟨⟨names, last⟩, if_neg long, ?_⟩
            cases plain : Target.isSpecial ⟨names, last⟩ with
            | true => exact .inl rfl
            | false =>
                -- The walk went through what stands there.
                have step := tree.walk_last plain (Bool.eq_false_iff.2 long)
                rw [show tree.walk names [last] = .ok there from walked] at step
                cases found : tree.node? (Target.whole ⟨names, last⟩) with
                | none =>
                    rw [found] at step
                    cases step
                | some node => exact .inr rfl

/-- Where a directory was made there is one. -/
theorem isDirectory_of_makeDirectory {made : FileTree}
    (done : tree.makeDirectory path = .ok made) : made.isDirectory path = true := by
  rw [makeDirectory] at done
  cases leads : tree.target path with
  | error cause =>
      rw [leads] at done
      cases done
  | ok target =>
      rw [leads] at done
      dsimp only at done
      split at done
      · cases done
      · rename_i free
        rw [Bool.or_eq_true, not_or, Bool.not_eq_true, Bool.not_eq_true,
          Option.isSome_eq_false_iff, Option.isNone_iff_eq_none] at free
        obtain ⟨fine, before, pieces, walked, short⟩ := target_eq_ok leads free.1
        cases done
        have named : target.whole ≠ [] := by simp [Target.whole]
        have keeps : tree.KeepsDirectories (tree.withNode target.whole .directory) :=
          keepsDirectories_withNode named _ (by rw [free.2]; nofun)
        have stands : (tree.withNode target.whole .directory).node? target.whole =
            some .directory := by
          rw [node?_of_ne_nil _ named, withNode]
          exact SortedMap.get?_insert_self _ _ _
        refine isDirectory_iff.2 ⟨fine, target.whole, ?_⟩
        rw [← walk_named, pieces, walk_append, keeps.start, walk_of_keeps keeps walked]
        dsimp only [Except.bind]
        rw [walk_last _ free.1 short, stands]

/-- **The directory that was to be made stands afterwards.** -/
theorem isDirectory_of_makeDirectories {after : FileTree} (some : path ≠ "")
    (done : tree.makeDirectories path = (.ok (), after)) : after.isDirectory path = true := by
  have settled {tree after : FileTree} {cause : FileError}
      (done : (if tree.isDirectory path then Except.ok () else .error cause, tree) =
        (Except.ok (), after)) : after.isDirectory path = true := by
    obtain ⟨welcome, rfl⟩ := Prod.mk.inj done
    by_cases stands : tree.isDirectory path = true
    · exact stands
    · rw [if_neg stands] at welcome
      cases welcome
  rw [makeDirectories, makeFirst, if_neg (by simpa using some)] at done
  split at done
  · rename_i made here
    cases done
    exact isDirectory_of_makeDirectory here
  · split at done
    · cases done
    · split at done
      · rename_i made here
        cases done
        exact isDirectory_of_makeDirectory here
      · exact settled done
  · exact settled done

/-- **Where there is a directory none is made.** -/
theorem makeDirectories_of_isDirectory (some : path ≠ "")
    (stands : tree.isDirectory path = true) : tree.makeDirectories path = (.ok (), tree) := by
  have refused : ∃ cause, tree.makeDirectory path = .error cause ∧ cause ≠ .missing := by
    rw [makeDirectory]
    obtain long | ⟨target, leads, occupied⟩ := target_of_isDirectory stands
    · rw [long]
      exact ⟨.nameTooLong, rfl, nofun⟩
    · rw [leads]
      refine ⟨.occupied, if_pos ?_, nofun⟩
      rwa [Bool.or_eq_true]
  obtain ⟨cause, failed, other⟩ := refused
  rw [makeDirectories, makeFirst, if_neg (by simpa using some), failed]
  cases cause with
  | missing => exact absurd rfl other
  | _ => simp [stands]

/-! ## The way of the engine -/

/-- There is a directory at the place of the names, and at all places on the way to it. -/
def Stands (tree : FileTree) (names : List String) : Prop := tree.walk [] names = .ok names

theorem stands_nil (tree : FileTree) : tree.Stands [] := rfl

theorem length_walk {pieces : List String} (came : tree.walk here pieces = .ok there) :
    there.length ≤ here.length + pieces.length := by
  induction pieces generalizing here with
  | nil =>
      cases came
      exact Nat.le_refl _
  | cons piece rest ih =>
      rw [walk] at came
      rw [List.length_cons]
      split at came
      · exact Nat.le_trans (ih came) (by omega)
      · split at came
        · refine Nat.le_trans (ih came) ?_
          rw [List.length_dropLast]
          omega
        · split at came
          · cases came
          · dsimp only at came
            split at came
            · refine Nat.le_trans (ih came) ?_
              rw [List.length_append, List.length_singleton]
              omega
            · cases came
            · cases came

/-- The directory around one that stands does so, too. -/
theorem Stands.dropLast (stands : tree.Stands names) : tree.Stands names.dropLast := by
  rcases List.eq_nil_or_concat names with rfl | ⟨outer, last, rfl⟩
  · exact stands
  · rw [List.concat_eq_append, Stands, walk_append] at stands
    rw [List.concat_eq_append, List.dropLast_concat, Stands]
    cases walked : tree.walk [] outer with
    | error cause =>
        rw [walked] at stands
        cases stands
    | ok reached =>
        rw [walked] at stands
        dsimp only [Except.bind] at stands
        have short := length_walk walked
        -- Only a step into a directory makes the way longer.
        rw [walk] at stands
        split at stands
        · cases stands
          rw [List.length_append, List.length_singleton, List.length_nil] at short
          omega
        · split at stands
          · have same : reached.dropLast = outer ++ [last] := Except.ok.inj stands
            have lengths := congrArg List.length same
            rw [List.length_dropLast, List.length_append, List.length_singleton] at lengths
            simp only [List.length_nil] at short
            omega
          · split at stands
            · cases stands
            · dsimp only at stands
              split at stands
              · rw [(List.append_inj_left' (Except.ok.inj stands) rfl)]
              · cases stands
              · cases stands

/-- A walk from what stands comes to what stands. -/
theorem Stands.step (stands : tree.Stands here) {piece : String}
    (walked : tree.walk here [piece] = .ok there) : tree.Stands there := by
  rw [walk] at walked
  split at walked
  · cases walked
    exact stands
  · rename_i idle
    split at walked
    · cases walked
      exact stands.dropLast
    · rename_i up
      split at walked
      · cases walked
      · rename_i long
        dsimp only at walked
        split at walked
        · rename_i found
          cases walked
          rw [Stands, walk_append, show tree.walk [] here = .ok here from stands]
          dsimp only [Except.bind]
          rw [walk, if_neg idle, if_neg up, if_neg long]
          dsimp only
          rw [found]
          rfl
        · cases walked
        · cases walked

theorem Stands.of_keeps (keeps : first.KeepsDirectories second) (stands : first.Stands names) :
    second.Stands names := walk_of_keeps keeps stands

/-- From a directory that stands the engine makes the same step in both trees. -/
theorem resolveStep_of_keeps (keeps : first.KeepsDirectories second) (stands : first.Stands here)
    (piece : String) : second.resolveStep here piece = first.resolveStep here piece := by
  have possible : second.isPossible (here ++ [piece]) = first.isPossible (here ++ [piece]) := by
    rw [isPossible, isPossible, List.dropLast_concat,
      show first.walk [] here = .ok here from stands,
      show second.walk [] here = .ok here from stands.of_keeps keeps]
  rw [resolveStep, resolveStep]
  dsimp only
  rw [possible]

/-- Where a walk comes through, the engine makes the same step as the walk, if any. -/
theorem resolveStep_eq_some {piece : String} {next : List String}
    (plain : Path.isIdle piece = false) (walked : tree.walk here [piece] = .ok there)
    (made : tree.resolveStep here piece = some next) : next = there := by
  rw [walk, if_neg (by simp [plain])] at walked
  rw [resolveStep] at made
  by_cases up : piece = ".."
  · rw [if_pos up] at walked made
    cases walked
    cases made
    rfl
  · rw [if_neg up] at walked made
    split at walked
    · cases walked
    · dsimp only at walked made
      split at walked
      · cases walked
        rw [Option.ite_none_right_eq_some] at made
        exact (Option.some.inj made.2).symm
      · cases walked
      · cases walked

/-- **The engine goes the same way in both trees** as long as a walk through the first one comes
along, and one step further. -/
theorem foldlM_resolveStep_of_keeps (keeps : first.KeepsDirectories second)
    (stands : first.Stands here) {front : List String} (last : String)
    (plain : ∀ piece ∈ front, Path.isIdle piece = false)
    (came : first.walk here front = .ok there) :
    (front ++ [last]).foldlM second.resolveStep here =
      (front ++ [last]).foldlM first.resolveStep here := by
  induction front generalizing here with
  | nil =>
      rw [List.nil_append, List.foldlM_cons, List.foldlM_cons, resolveStep_of_keeps keeps stands]
      rfl
  | cons piece rest ih =>
      obtain ⟨first_plain, later_plain⟩ := List.forall_mem_cons.1 plain
      rw [show piece :: rest = [piece] ++ rest from rfl, walk_append] at came
      rw [List.cons_append, List.foldlM_cons, List.foldlM_cons, resolveStep_of_keeps keeps stands]
      cases stepped : first.walk here [piece] with
      | error cause =>
          rw [stepped] at came
          cases came
      | ok between =>
          rw [stepped] at came
          cases made : first.resolveStep here piece with
          | none => rfl
          | some next =>
              obtain rfl := resolveStep_eq_some first_plain stepped made
              exact ih (stands.step stepped) later_plain came

/-- **The engine finds the same place as long as directories stay**, if there is one around it. -/
theorem resolve_of_keeps (keeps : first.KeepsDirectories second)
    (absolute : Path.isAbsolute path = true)
    (around : ∀ directory, Path.parent? path = some directory →
      first.isDirectory directory = true) : second.resolve path = first.resolve path := by
  have starts (tree : FileTree) : tree.start path = [] := by rw [start, if_pos absolute]
  have same : (Path.components path).foldlM second.resolveStep [] =
      (Path.components path).foldlM first.resolveStep [] := by
    cases parent : Path.parent? path with
    | none =>
        rw [Path.components_of_no_parent parent]
        rfl
    | some directory =>
        obtain ⟨parentAbsolute, components⟩ := Path.components_parent absolute parent
        obtain ⟨_, there, walked⟩ := isDirectory_iff.1 (around directory parent)
        have skip (piece : String) (skipped : (!Path.isIdle piece) = false) :
            Path.isIdle piece = true := by simpa using skipped
        rw [start, if_pos parentAbsolute, ← walk_filter first [] skip] at walked
        rcases List.eq_nil_or_concat (Path.components path) with none | ⟨front, last, whole⟩
        · rw [none]
          rfl
        · rw [List.concat_eq_append] at whole
          rw [show (Path.pieces directory).filter (fun piece => !Path.isIdle piece) =
            Path.components directory from rfl, components, whole, List.dropLast_concat] at walked
          rw [whole]
          refine foldlM_resolveStep_of_keeps keeps first.stands_nil last (fun piece member => ?_)
            walked
          have inside : piece ∈ Path.components path := whole ▸ List.mem_append_left _ member
          simpa using (List.mem_filter.1 inside).2
  rw [resolve, resolve, starts, starts, same]

end FileTree

end ScopedStore
