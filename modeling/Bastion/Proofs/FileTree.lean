import Bastion.Files.Tree
import Bastion.Proofs.KeyedEntries
import Bastion.Proofs.TextOccurrences

set_option autoImplicit false

namespace Bastion.Files

namespace Path

theorem names_eq {path : Path} (some : path.names ≠ []) :
    path.names = path.parent.names ++ [path.name] := by
  unfold parent name
  rw [List.getLast?_eq_some_getLast some]
  exact (List.dropLast_concat_getLast some).symm

theorem spot_child (directory : Path) (name : String) :
    (directory.child name).spot = directory.spot.step name := by
  unfold Path.spot child
  rw [List.foldl_append]
  rfl

theorem name_child (directory : Path) (name : String) : (directory.child name).name = name := by
  unfold Path.name child
  rw [List.getLast?_concat]
  rfl

theorem spot_eq {path : Path} (some : path.names ≠ []) :
    path.spot = path.parent.spot.step path.name := by
  unfold Path.spot
  rw [names_eq some, List.foldl_append]
  rfl

theorem spot_of_no_names {path : Path} (none : path.names = []) :
    path.spot.names.isEmpty = true := by
  unfold Path.spot
  rw [none]
  cases path.anchor <;> rfl

theorem mem_intercalate {c : Char} (apart : c ≠ '/') (names : List String) :
    c ∈ (String.intercalate "/" names).toList ↔ ∃ name ∈ names, c ∈ name.toList := by
  induction names with
  | nil => simp
  | cons name rest ih =>
    cases rest with
    | nil => simp
    | cons next later =>
      rw [String.intercalate_cons_cons, String.toList_append, String.toList_append, List.mem_append,
        List.mem_append, ih]
      simp [apart]

theorem null_mem_text (path : Path) :
    '\x00' ∈ path.text.toList ↔ ∃ name ∈ path.names, '\x00' ∈ name.toList := by
  have anchor : '\x00' ∉ path.anchor.text.toList := by
    cases path.anchor <;> decide
  have written : '\x00' ∈ (path.anchor.text ++ String.intercalate "/" path.names).toList ↔
      ∃ name ∈ path.names, '\x00' ∈ name.toList := by
    rw [String.toList_append, List.mem_append, mem_intercalate (by decide)]
    simp [anchor]
  unfold text
  simp only
  split
  · rename_i empty
    rw [← written, empty]
    decide
  · exact written

theorem null_mem_ofString {text : String} (null : '\x00' ∈ (ofString text).text.toList) :
    '\x00' ∈ text.toList := by
  obtain ⟨name, named, inside⟩ := (null_mem_text _).1 null
  obtain ⟨piece, cut, rfl⟩ := List.mem_map.1 (List.mem_of_mem_filter named)
  rw [String.toList_ofList] at inside
  exact Text.mem_of_mem_piecesFrom cut inside

theorem intercalate_concat (names : List String) :
    ∃ before : String, ∀ name, String.intercalate "/" (names ++ [name]) = before ++ name := by
  induction names with
  | nil => exact ⟨"", fun name => String.empty_append.symm⟩
  | cons first rest ih =>
    obtain ⟨before, joined⟩ := ih
    refine ⟨first ++ "/" ++ before, fun name => ?_⟩
    rw [String.append_assoc, ← joined]
    cases rest with
    | nil => exact String.intercalate_cons_cons
    | cons next later => exact String.intercalate_cons_cons

theorem text_child (directory : Path) :
    ∃ before : String, ∀ name, (directory.child name).text =
      if before ++ name = "" then "." else before ++ name := by
  obtain ⟨before, joined⟩ := intercalate_concat directory.names
  refine ⟨directory.anchor.text ++ before, fun name => ?_⟩
  unfold text child
  simp only [joined, String.append_assoc]

theorem mem_prefixes_self {path : Path} (some : path.names ≠ []) : path ∈ path.prefixes := by
  have last : path.names.length - 1 + 1 = path.names.length :=
    Nat.sub_add_cancel (List.length_pos_iff.2 some)
  refine List.mem_map.2 ⟨path.names.length - 1, List.mem_range.2 (by omega), ?_⟩
  rw [last, List.take_length]

theorem prefixes_parent_subset (path : Path) : path.parent.prefixes ⊆ path.prefixes := by
  intro above member
  obtain ⟨i, inside, rfl⟩ := List.mem_map.1 member
  have shorter : i + 1 ≤ path.names.length - 1 := by
    have size : path.parent.names.length = path.names.length - 1 := List.length_dropLast
    rw [List.mem_range, size] at inside
    omega
  refine List.mem_map.2 ⟨i, List.mem_range.2 (by omega), ?_⟩
  have taken : path.parent.names.take (i + 1) = path.names.take (i + 1) := by
    change path.names.dropLast.take (i + 1) = _
    rw [List.dropLast_eq_take, List.take_take, Nat.min_eq_left shorter]
  rw [taken]
  rfl

theorem child_parent {path : Path} (some : path.names ≠ []) : path.parent.child path.name = path := by
  obtain ⟨anchor, names⟩ := path
  exact congrArg (Path.mk anchor) (names_eq some).symm

theorem size_text_le {path : Path} {name : String} (some : path.names ≠ []) (visible : name ≠ "")
    (long : path.name.utf8ByteSize ≤ name.utf8ByteSize) :
    path.text.utf8ByteSize ≤ (path.parent.child name).text.utf8ByteSize := by
  obtain ⟨before, texts⟩ := path.parent.text_child
  have own := texts path.name
  rw [child_parent some] at own
  have filled : ¬before ++ name = "" := fun empty => visible (String.append_eq_empty_iff.1 empty).2
  have positive : 0 < name.utf8ByteSize :=
    Nat.pos_of_ne_zero (mt String.utf8ByteSize_eq_zero_iff.1 visible)
  rw [texts name, if_neg filled, own, String.utf8ByteSize_append]
  split
  · have dot : String.utf8ByteSize "." = 1 := by decide
    omega
  · rw [String.utf8ByteSize_append]
    omega

end Path

namespace Tree

variable {tree larger after : Tree} {path other : Path} {spot : Spot}

/-- The text of the file at a spot, none where there is no file. -/
def textAt? (tree : Tree) (spot : Spot) : Option String :=
  match tree.entry? spot with
  | some (.file text) => some text
  | _ => none

theorem entry?_root (tree : Tree) {spot : Spot} (root : spot.names.isEmpty = true) :
    tree.entry? spot = some .directory := if_pos root

theorem entry?_below (tree : Tree) {spot : Spot} (below : ¬spot.names.isEmpty = true) :
    tree.entry? spot = Keyed.get? tree.entries spot := if_neg below

theorem below_of_ne_directory (other : tree.entry? spot ≠ some .directory) :
    ¬spot.names.isEmpty = true := fun root => other (entry?_root tree root)

theorem below_of_missing (missing : tree.entry? spot = none) : ¬spot.names.isEmpty = true :=
  below_of_ne_directory fun there => Option.some_ne_none _ (there.symm.trans missing)

theorem entry?_put_same (tree : Tree) (entry : Entry) (below : ¬spot.names.isEmpty = true) :
    entry? (tree.put spot entry) spot = some entry := by
  rw [entry?_below _ below]
  exact Keyed.get?_put_same tree.entries spot entry

theorem entry?_put_other (tree : Tree) (entry : Entry) {seen : Spot} (apart : seen ≠ spot) :
    entry? (tree.put spot entry) seen = tree.entry? seen := by
  by_cases root : seen.names.isEmpty = true
  · rw [entry?_root _ root, entry?_root _ root]
  · rw [entry?_below _ root, entry?_below _ root]
    exact Keyed.get?_put_other tree.entries entry apart

theorem entry?_put_congr (same : ∀ seen, after.entry? seen = tree.entry? seen) (spot : Spot)
    (entry : Entry) (seen : Spot) :
    entry? (after.put spot entry) seen = entry? (tree.put spot entry) seen := by
  by_cases root : seen.names.isEmpty = true
  · rw [entry?_root _ root, entry?_root _ root]
  · by_cases here : seen = spot
    · subst here
      rw [entry?_put_same _ _ root, entry?_put_same _ _ root]
    · rw [entry?_put_other _ _ here, entry?_put_other _ _ here, same]

theorem entry?_erase_same (tree : Tree) (below : ¬spot.names.isEmpty = true) :
    entry? (tree.erase spot) spot = none := by
  rw [entry?_below _ below]
  exact Keyed.get?_erase_same tree.entries spot

theorem entry?_erase_other (tree : Tree) {seen : Spot} (apart : seen ≠ spot) :
    entry? (tree.erase spot) seen = tree.entry? seen := by
  by_cases root : seen.names.isEmpty = true
  · rw [entry?_root _ root, entry?_root _ root]
  · rw [entry?_below _ root, entry?_below _ root]
    exact Keyed.get?_erase_other tree.entries apart

theorem textAt?_congr {seen : Spot} (same : after.entry? seen = tree.entry? seen) :
    after.textAt? seen = tree.textAt? seen := by
  unfold textAt?
  rw [same]

def KeepsBeside (spot : Spot) (tree after : Tree) : Prop :=
  ∀ seen, seen ≠ spot → after.entry? seen = tree.entry? seen

theorem KeepsBeside.put (keeps : KeepsBeside spot tree larger) (entry : Entry) :
    KeepsBeside spot tree (larger.put spot entry) := by
  intro seen apart
  rw [entry?_put_other _ _ apart]
  exact keeps seen apart

theorem KeepsBeside.textAt? (keeps : KeepsBeside spot tree larger) {seen : Spot}
    (apart : seen ≠ spot) : larger.textAt? seen = tree.textAt? seen :=
  textAt?_congr (keeps seen apart)

/-- What came to a spot where nothing was is removed without a trace. -/
theorem KeepsBeside.entry?_erase (keeps : KeepsBeside spot tree larger)
    (missing : tree.entry? spot = none) (seen : Spot) :
    entry? (larger.erase spot) seen = tree.entry? seen := by
  by_cases same : seen = spot
  · subst same
    rw [entry?_erase_same _ (below_of_missing missing), missing]
  · rw [entry?_erase_other _ same]
    exact keeps seen same

/-- A directory of the first tree is one of the second. -/
def KeepsDirectories (tree after : Tree) : Prop :=
  ∀ spot, tree.entry? spot = some .directory → after.entry? spot = some .directory

def Grown (tree larger : Tree) : Prop :=
  ∀ spot, larger.entry? spot = tree.entry? spot ∨
    tree.entry? spot = none ∧ larger.entry? spot = some .directory

theorem Grown.refl (tree : Tree) : Grown tree tree := fun _ => .inl rfl

theorem Grown.trans (first : Grown tree larger) (second : Grown larger after) : Grown tree after := by
  intro spot
  rcases first spot with same | ⟨missing, made⟩
  · rw [← same]
    exact second spot
  · refine .inr ⟨missing, ?_⟩
    rcases second spot with same | ⟨absent, _⟩
    · rw [same, made]
    · rw [made] at absent
      cases absent

theorem Grown.keepsDirectories (grown : Grown tree larger) : KeepsDirectories tree larger := by
  intro spot there
  rcases grown spot with same | ⟨missing, _⟩
  · rw [same, there]
  · rw [there] at missing
    cases missing

theorem Grown.textAt? (grown : Grown tree larger) (spot : Spot) :
    larger.textAt? spot = tree.textAt? spot := by
  rcases grown spot with same | ⟨missing, made⟩
  · exact textAt?_congr same
  · unfold Tree.textAt?
    rw [missing, made]

theorem grown_put (missing : tree.entry? spot = none) : Grown tree (tree.put spot .directory) := by
  intro seen
  by_cases same : seen = spot
  · subst same
    have below : ¬seen.names.isEmpty = true := by
      intro root
      rw [entry?_root tree root] at missing
      cases missing
    exact .inr ⟨missing, entry?_put_same tree .directory below⟩
  · exact .inl (entry?_put_other tree .directory same)

theorem follow_cons {name : String} {rest : List String} {start : Spot} :
    tree.follow path start (name :: rest) = .ok spot ↔
      tree.entry? start = some .directory ∧ ¬nameLimit < name.utf8ByteSize ∧
        tree.follow path (start.step name) rest = .ok spot := by
  rw [follow]
  cases tree.entry? start with
  | none => simp
  | some entry =>
    cases entry with
    | file text => simp
    | directory =>
      by_cases long : nameLimit < name.utf8ByteSize
      · simp [long]
      · simp [long]

theorem follow_kept (keeps : KeepsDirectories tree after) {names : List String} {start : Spot}
    (led : tree.follow path start names = .ok spot) : after.follow other start names = .ok spot := by
  induction names generalizing start with
  | nil => exact led
  | cons name rest ih =>
    obtain ⟨there, short, led⟩ := follow_cons.1 led
    exact follow_cons.2 ⟨keeps start there, short, ih led⟩

theorem follow_append {first second : List String} {start between : Spot}
    (led : tree.follow path start first = .ok between)
    (leads : tree.follow path between second = .ok spot) :
    tree.follow path start (first ++ second) = .ok spot := by
  induction first generalizing start with
  | nil =>
    obtain rfl := Except.ok.inj led
    exact leads
  | cons name rest ih =>
    obtain ⟨there, short, led⟩ := follow_cons.1 led
    exact follow_cons.2 ⟨there, short, ih led⟩

theorem spot_of_follow {names : List String} {start : Spot}
    (led : tree.follow path start names = .ok spot) : names.foldl Spot.step start = spot := by
  induction names generalizing start with
  | nil => exact Except.ok.inj led
  | cons name rest ih => exact ih (follow_cons.1 led).2.2

/-- A last name is looked up in a directory and leads to the spot below it. -/
theorem follow_single {start : Spot} {name : String}
    (there : tree.entry? start = some .directory) (short : ¬nameLimit < name.utf8ByteSize) :
    tree.follow path start [name] = .ok (start.step name) :=
  follow_cons.2 ⟨there, short, rfl⟩

theorem locate_ok :
    tree.locate path = .ok spot ↔ path.text.toList.contains '\x00' = false ∧
      ¬pathLimit < path.text.utf8ByteSize ∧
        tree.follow path path.anchor.spot path.names = .ok spot := by
  unfold locate
  cases path.text.toList.contains '\x00' with
  | true => simp
  | false =>
    by_cases long : pathLimit < path.text.utf8ByteSize
    · simp [long]
    · simp [long]

theorem locate_kept (keeps : KeepsDirectories tree after) (found : tree.locate path = .ok spot) :
    after.locate path = .ok spot := by
  obtain ⟨clean, short, led⟩ := locate_ok.1 found
  exact locate_ok.2 ⟨clean, short, follow_kept keeps led⟩

theorem spot_of_locate (found : tree.locate path = .ok spot) : path.spot = spot :=
  spot_of_follow (locate_ok.1 found).2.2

/-- What is not there is missing on the way, and nothing else is wrong with the path. -/
theorem locate_missing (missing : tree.locate path = .error (.missing other)) :
    path.text.toList.contains '\x00' = false ∧ ¬pathLimit < path.text.utf8ByteSize ∧
      path.names ≠ [] := by
  unfold locate at missing
  split at missing
  · cases missing
  · split at missing
    · cases missing
    · rename_i clean short
      refine ⟨Bool.not_eq_true _ ▸ clean, short, fun none => ?_⟩
      rw [none] at missing
      cases missing

theorem grown_makeAt (tree : Tree) (path : Path) (found : Except FileError Spot) :
    Grown tree (tree.makeAt path found).2 := by
  unfold makeAt
  split
  · exact .refl tree
  · split
    · exact .refl tree
    · exact .refl tree
    · rename_i missing
      exact grown_put missing

theorem makeAt_ok {found : Except FileError Spot} (made : tree.makeAt path found = (.ok spot, after)) :
    found = .ok spot ∧ after.entry? spot = some .directory := by
  unfold makeAt at made
  split at made
  · cases made
  · split at made
    · rename_i there
      obtain ⟨⟨rfl⟩, rfl⟩ := Prod.mk.inj made
      exact ⟨rfl, there⟩
    · cases made
    · rename_i missing
      obtain ⟨⟨rfl⟩, rfl⟩ := Prod.mk.inj made
      exact ⟨rfl, entry?_put_same tree .directory (below_of_missing missing)⟩

theorem makeAt_missing {found : Except FileError Spot}
    (failed : tree.makeAt path found = (.error (.missing other), after)) :
    found = .error (.missing other) := by
  unfold makeAt at failed
  split at failed
  · exact congrArg Except.error (Except.error.inj (Prod.mk.inj failed).1)
  · split at failed <;> cases failed

theorem makeUpTo_ok {levels : Nat} (made : tree.makeUpTo levels path = (.ok spot, after)) :
    after.locate path = .ok spot ∧ after.entry? spot = some .directory := by
  induction levels generalizing path spot after with
  | zero => cases made
  | succ levels ih =>
    rw [makeUpTo] at made
    split at made
    · rename_i failed
      obtain ⟨clean, short, some⟩ := locate_missing (makeAt_missing failed)
      split at made
      · rename_i start between parent
        obtain ⟨located, there⟩ := ih parent
        have grown : Grown between after := by
          have grown := grown_makeAt between path (between.follow path start [path.name])
          rwa [made] at grown
        obtain ⟨led, made⟩ := makeAt_ok made
        refine ⟨locate_ok.2 ⟨clean, short, ?_⟩, made⟩
        rw [Path.names_eq some]
        exact follow_append (follow_kept grown.keepsDirectories (locate_ok.1 located).2.2)
          (follow_kept grown.keepsDirectories led)
      · rename_i other
        rw [made] at other
        exact (other _ _ rfl).elim
    · have grown : Grown tree after := by
        have grown := grown_makeAt tree path (tree.locate path)
        rwa [made] at grown
      obtain ⟨located, there⟩ := makeAt_ok made
      exact ⟨locate_kept grown.keepsDirectories located, there⟩

/-- Directories were made on the way that a path says, where nothing was, and nothing else was changed. -/
structure Paved (path : Path) (tree larger : Tree) : Prop where
  grown : Grown tree larger
  onTheWay : ∀ spot, tree.entry? spot = none → larger.entry? spot = some .directory →
    ∃ above ∈ path.prefixes, above.spot = spot

namespace Paved

theorem refl (path : Path) (tree : Tree) : Paved path tree tree := by
  refine ⟨.refl tree, fun spot missing made => ?_⟩
  rw [missing] at made
  cases made

theorem trans (first : Paved path tree larger) (second : Paved path larger after) :
    Paved path tree after := by
  refine ⟨first.grown.trans second.grown, fun spot missing made => ?_⟩
  rcases first.grown spot with same | ⟨_, between⟩
  · exact second.onTheWay spot (same.trans missing) made
  · exact first.onTheWay spot missing between

theorem congr (paved : Paved path tree larger)
    (same : ∀ spot, after.entry? spot = larger.entry? spot) : Paved path tree after := by
  refine ⟨fun spot => ?_, fun spot missing made => ?_⟩
  · rw [same]
    exact paved.grown spot
  · rw [same] at made
    exact paved.onTheWay spot missing made

theorem of_parent (paved : Paved path.parent tree larger) : Paved path tree larger := by
  refine ⟨paved.grown, fun spot missing made => ?_⟩
  obtain ⟨above, member, led⟩ := paved.onTheWay spot missing made
  exact ⟨above, path.prefixes_parent_subset member, led⟩

end Paved

/-- The file at a path has this text, and apart from that only directories on the way to it were made. -/
def Rewritten (path : Path) (text : String) (tree after : Tree) : Prop :=
  ∃ paved, Paved path.parent tree paved ∧
    ∀ seen, after.entry? seen = entry? (paved.put path.spot (.file text)) seen

theorem paved_makeAt (tree : Tree) {found : Except FileError Spot}
    (led : ∀ spot, found = .ok spot → spot = path.spot) :
    Paved path tree (tree.makeAt path found).2 := by
  refine ⟨grown_makeAt tree path found, fun spot missing made => ?_⟩
  cases found with
  | error failure =>
    have absurd : tree.entry? spot = some .directory := made
    rw [missing] at absurd
    cases absurd
  | ok target =>
    obtain rfl := led target rfl
    by_cases same : spot = path.spot
    · refine ⟨path, Path.mem_prefixes_self fun none => ?_, same.symm⟩
      rw [same, entry?_root tree (Path.spot_of_no_names none)] at missing
      cases missing
    · have kept : entry? (tree.makeAt path (.ok path.spot)).2 spot = tree.entry? spot := by
        unfold makeAt
        simp only
        split
        · rfl
        · rfl
        · exact entry?_put_other tree .directory same
      rw [kept, missing] at made
      cases made

/-- Only directories on the way are made, also where that fails in the end. -/
theorem paved_makeUpTo (tree : Tree) (levels : Nat) (path : Path) :
    Paved path tree (tree.makeUpTo levels path).2 := by
  induction levels generalizing path with
  | zero => exact .refl path tree
  | succ levels ih =>
    rw [makeUpTo]
    split
    · rename_i failed
      obtain ⟨_, _, some⟩ := locate_missing (makeAt_missing failed)
      have first := (ih path.parent).of_parent
      split
      · rename_i start between made
        rw [made] at first
        have parent := spot_of_locate (makeUpTo_ok made).1
        refine first.trans (paved_makeAt between fun spot led => ?_)
        rw [Path.spot_eq some, parent]
        exact (spot_of_follow led).symm
      · exact first
    · exact paved_makeAt tree fun spot located => (spot_of_locate located).symm

theorem makeUpTo_there {levels : Nat} (positive : 0 < levels) (located : tree.locate path = .ok spot)
    (there : tree.entry? spot = some .directory) :
    tree.makeUpTo levels path = (.ok spot, tree) := by
  obtain ⟨levels, rfl⟩ := Nat.exists_eq_add_one_of_ne_zero (Nat.ne_of_gt positive)
  have made : tree.makeAt path (tree.locate path) = (.ok spot, tree) := by
    rw [located]
    unfold makeAt
    simp only [there]
  rw [makeUpTo, made]

theorem le_foldl_max (lengths : List Nat) (start : Nat) :
    start ≤ lengths.foldl max start ∧
      ∀ length ∈ lengths, length ≤ lengths.foldl max start := by
  induction lengths generalizing start with
  | nil => exact ⟨Nat.le_refl _, fun _ member => by cases member⟩
  | cons length rest ih =>
    obtain ⟨first, all⟩ := ih (max start length)
    refine ⟨Nat.le_trans (Nat.le_max_left _ _) first, fun other member => ?_⟩
    rcases List.mem_cons.1 member with rfl | later
    · exact Nat.le_trans (Nat.le_max_right _ _) first
    · exact all other later

theorem entry?_of_long (below : ¬spot.names.isEmpty = true)
    (long : tree.longestName < spot.name.length) : tree.entry? spot = none := by
  rw [entry?_below tree below]
  cases held : Keyed.get? tree.entries spot with
  | none => rfl
  | some entry =>
    have member : spot.name.length ∈ tree.entries.map fun entry => entry.1.name.length :=
      List.mem_map.2 ⟨_, Keyed.mem_of_get? held, rfl⟩
    exact absurd ((le_foldl_max _ 0).2 _ member) (Nat.not_le.2 long)

/-- The name of a new file is longer than all others and what it was made from. -/
theorem freshPath_name (tree : Tree) (directory : Path) (stem : String) :
    ∃ name, (tree.freshPath directory stem).spot = directory.spot.step name ∧ name ≠ ".." ∧
      tree.longestName < name.length ∧ stem.length < name.length := by
  refine ⟨stem ++ String.ofList (List.replicate (tree.longestName + 1) '0'),
    Path.spot_child directory _, fun same => ?_, ?_, ?_⟩
  · have zero : '0' ∈ (stem ++ String.ofList (List.replicate (tree.longestName + 1) '0')).toList := by
      rw [String.toList_append, String.toList_ofList]
      exact List.mem_append_right _ (List.mem_replicate.2 ⟨Nat.succ_ne_zero _, rfl⟩)
    rw [same] at zero
    exact absurd zero (by decide)
  all_goals
    rw [String.length_append, String.length_ofList, List.length_replicate]
    omega

theorem step_of_ne {spot : Spot} {name : String} (down : name ≠ "..") :
    spot.step name = { spot with names := spot.names.push name } := if_neg down

theorem freshPath_missing (tree : Tree) (directory : Path) (stem : String) :
    tree.entry? (tree.freshPath directory stem).spot = none := by
  obtain ⟨name, led, down, long, _⟩ := tree.freshPath_name directory stem
  rw [led, step_of_ne down]
  refine entry?_of_long (by simp) ?_
  unfold Spot.name
  rwa [Array.back?_push]

theorem freshPath_below (tree : Tree) (directory : Path) (stem : String) :
    ¬(tree.freshPath directory stem).spot.names.isEmpty = true := by
  obtain ⟨name, led, down, _⟩ := tree.freshPath_name directory stem
  rw [led, step_of_ne down]
  simp

theorem size_step_up (spot : Spot) : (spot.step "..").names.size ≤ spot.names.size := by
  change spot.parent.names.size ≤ _
  unfold Spot.parent
  split
  · cases spot.base <;> simp
  · simp

theorem freshPath_apart (tree : Tree) (path : Path) {stem : String}
    (long : path.name.length ≤ stem.length) :
    (tree.freshPath path.parent stem).spot ≠ path.spot := by
  obtain ⟨name, led, down, _, longer⟩ := tree.freshPath_name path.parent stem
  rw [led, step_of_ne down]
  intro same
  have size : path.parent.spot.names.size + 1 = path.spot.names.size := by
    rw [← same, Array.size_push]
  by_cases some : path.names = []
  · rw [Array.isEmpty_iff.1 (Path.spot_of_no_names some)] at size
    cases size
  · rw [Path.spot_eq some] at same size
    by_cases up : path.name = ".."
    · rw [up] at size
      have bound := size_step_up path.parent.spot
      omega
    · rw [step_of_ne up, Spot.mk.injEq, Array.push_eq_push] at same
      rw [same.2.1] at longer
      omega

/-- A new temporary file, of which nothing was there, in a directory whose path may hold it. -/
theorem createTemporary_ok {directory temporary : Path} {stem : String} :
    tree.createTemporary directory stem = .ok (temporary, after) ↔
      stem.toList.contains '\x00' = false ∧
        ¬(nameLimit < (directory.child (temporaryName stem)).name.utf8ByteSize ∨
          pathLimit < (directory.child (temporaryName stem)).text.utf8ByteSize) ∧
        temporary = tree.freshPath directory stem ∧
        after = tree.put temporary.spot (.file "") := by
  unfold createTemporary
  cases stem.toList.contains '\x00' with
  | true => simp
  | false =>
    by_cases long : nameLimit < (directory.child (temporaryName stem)).name.utf8ByteSize ∨
        pathLimit < (directory.child (temporaryName stem)).text.utf8ByteSize
    · simp [long]
    · simp only [Bool.false_eq_true, ↓reduceIte, long, Except.ok.injEq, Prod.mk.injEq,
        not_false_eq_true, true_and]
      constructor
      · rintro ⟨rfl, rfl⟩
        exact ⟨rfl, rfl⟩
      · rintro ⟨rfl, rfl⟩
        exact ⟨rfl, rfl⟩

/-- The target then has the text of the source, and the source is gone. -/
theorem replace_ok {source target : Path} :
    tree.replace source target = .ok after ↔ ∃ text,
      tree.entry? source.spot = some (.file text) ∧ tree.entry? target.spot ≠ some .directory ∧
        after = (tree.erase source.spot).put target.spot (.file text) := by
  unfold replace
  cases tree.entry? source.spot with
  | none => simp
  | some entry =>
    cases entry with
    | directory => simp
    | file text =>
      by_cases there : tree.entry? target.spot = some .directory
      · simp [there]
      · simp only [there, ↓reduceIte, Except.ok.injEq, Option.some.injEq, Entry.file.injEq, ne_eq,
          not_false_eq_true, true_and, exists_eq_left', eq_comm]

theorem read_ok {text : String} :
    tree.read path = .ok text ↔ ∃ spot kept, tree.locate path = .ok spot ∧
      tree.entry? spot = some (.file kept) ∧
        String.ofList (Text.unifyLineEnds kept.toList) = text := by
  unfold read
  cases tree.locate path with
  | error failure => simp
  | ok spot =>
    cases there : tree.entry? spot with
    | none => simp [there]
    | some entry => cases entry <;> simp [there]

theorem follow_ne_null (tree : Tree) (path : Path) (start : Spot) (names : List String) :
    tree.follow path start names ≠ .error .nullCharacter := by
  induction names generalizing start with
  | nil => nofun
  | cons name rest ih =>
    unfold follow
    split
    · split
      · nofun
      · exact ih _
    · nofun
    · nofun

theorem read_ne_null (tree : Tree) {path : Path} (clean : '\x00' ∉ path.text.toList) :
    tree.read path ≠ .error .nullCharacter := by
  have located : tree.locate path ≠ .error .nullCharacter := by
    unfold locate
    rw [if_neg (by simpa using clean)]
    split
    · nofun
    · exact tree.follow_ne_null path _ _
  unfold read
  split
  · rename_i error failed
    rw [failed] at located
    exact fun same => located (congrArg Except.error (Except.error.inj same))
  · split <;> nofun

theorem has_of_read {text : String} (read : tree.read path = .ok text) :
    tree.has path = .ok true := by
  obtain ⟨spot, kept, located, there, _⟩ := read_ok.1 read
  unfold has
  simp only [located, there, Option.isSome_some]

theorem read_of_absent (absent : tree.has path = .ok false) : (tree.read path).toOption = none := by
  cases found : tree.read path with
  | error failure => rfl
  | ok text =>
    obtain ⟨spot, kept, located, there, _⟩ := read_ok.1 found
    unfold has at absent
    rw [located] at absent
    simp [there] at absent

end Tree

end Bastion.Files
