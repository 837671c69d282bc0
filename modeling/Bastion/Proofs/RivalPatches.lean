import Bastion.Proofs.StatusHistory
import Mathlib.Logic.Function.Basic

set_option autoImplicit false

/- Patches that are made of one file at the same time. Each loads the file in one step and replaces it in a
later one, so a patch puts back what it has loaded, whatever others have put there in between. -/
namespace Bastion.Status

open Files (Path Disk)
open Program

inductive Stage where
  | waiting
  | loaded (document : Json)
  | done

def Stage.left : Stage → Nat
  | waiting => 2
  | loaded _ => 1
  | done => 0

/-- A file, and how far each patch of it has come. -/
structure Rivals (ι : Type) where
  disk : Disk
  stage : ι → Stage

def Rivals.start {ι : Type} (disk : Disk) : Rivals ι := ⟨disk, fun _ => .waiting⟩

variable {ι : Type} [DecidableEq ι] {path : Path} {writers : ι → Change} {side : ι}
  {before after finish : Rivals ι} {schedule : List ι}

/-- A step of one patch: it loads the document, or goes on from the one that it has loaded. -/
inductive Advance (path : Path) (writers : ι → Change) (side : ι) : Rivals ι → Rivals ι → Prop
  | load {before : Rivals ι} {document : Json} {disk : Disk} (waits : before.stage side = .waiting)
      (loads : (load path).Returns Disk.handler before.disk document disk) :
      Advance path writers side before
        ⟨disk, Function.update before.stage side (.loaded document)⟩
  | replace {before : Rivals ι} {document : Json} {disk : Disk}
      (held : before.stage side = .loaded document)
      (replaces : (replaceBy path (writers side).name (writers side).patch document).Returns
        Disk.handler before.disk () disk) :
      Advance path writers side before ⟨disk, Function.update before.stage side .done⟩

inductive Advances (path : Path) (writers : ι → Change) :
    List ι → Rivals ι → Rivals ι → Prop
  | nil {state : Rivals ι} : Advances path writers [] state state
  | cons {side : ι} {schedule : List ι} {before between after : Rivals ι}
      (advance : Advance path writers side before between)
      (rest : Advances path writers schedule between after) :
      Advances path writers (side :: schedule) before after

theorem left_of_advance (advance : Advance path writers side before after) (other : ι) :
    (before.stage other).left = [side].count other + (after.stage other).left := by
  cases advance with
  | load waits loads =>
    by_cases same : other = side
    · subst same
      simp [waits, Stage.left]
    · simp [same, Ne.symm same]
  | replace held replaces =>
    by_cases same : other = side
    · subst same
      simp [held, Stage.left]
    · simp [same, Ne.symm same]

theorem left_of_advances (advances : Advances path writers schedule before finish) (other : ι) :
    (before.stage other).left = schedule.count other + (finish.stage other).left := by
  induction advances with
  | nil => simp
  | @cons side schedule _ _ _ advance rest ih =>
    have apart : (side :: schedule).count other = [side].count other + schedule.count other := by
      rw [← List.count_append, List.singleton_append]
    rw [left_of_advance advance, ih, apart, Nat.add_assoc]

/-- Which patches are in the file, and for each one that has loaded it which were there. -/
structure Trail (ι : Type) where
  kept : List ι
  seen : ι → Option (List ι)

def Trail.next (trail : Trail ι) (side : ι) : Trail ι :=
  match trail.seen side with
  | none => { trail with seen := Function.update trail.seen side (some trail.kept) }
  | some seen => { trail with kept := seen ++ [side] }

theorem Trail.next_of_none {trail : Trail ι} (unseen : trail.seen side = none) :
    trail.next side = { trail with seen := Function.update trail.seen side (some trail.kept) } := by
  unfold next
  rw [unseen]

theorem Trail.next_of_some {trail : Trail ι} {seen : List ι} (told : trail.seen side = some seen) :
    trail.next side = { trail with kept := seen ++ [side] } := by
  unfold next
  rw [told]

/-- The patches that are in the file after these steps. -/
def kept (schedule : List ι) : List ι :=
  (schedule.foldl Trail.next ⟨[], fun _ => none⟩).kept

/-- A patch that waits has seen nothing, and the document that one has loaded is what the patches that it
has seen make of the first statuses. -/
def Accounts (writers : ι → Change) (initial : List (String × Json)) (seen : Option (List ι)) :
    Stage → Prop
  | .waiting => seen = none
  | .loaded document => ∃ loaded members, seen = some loaded ∧ document = .object members ∧
    Statuses members ∧ MergedWith (loaded.map writers) initial members
  | .done => True

/-- The file holds what the kept patches make of the first statuses. -/
structure Traces (path : Path) (writers : ι → Change) (initial : List (String × Json))
    (trail : Trail ι) (now : Rivals ι) : Prop where
  held : ∃ members, Holds path now.disk members ∧
    MergedWith (trail.kept.map writers) initial members
  stages : ∀ side, Accounts writers initial (trail.seen side) (now.stage side)

variable {initial : List (String × Json)} {trail : Trail ι}

theorem traces_of_advance (advance : Advance path writers side before after)
    (traces : Traces path writers initial trail before) :
    Traces path writers initial (trail.next side) after := by
  obtain ⟨members, holds, merged⟩ := traces.held
  have own := traces.stages side
  cases advance with
  | load waits loads =>
    rw [waits] at own
    obtain ⟨rfl, rfl⟩ := returned_unique holds.loads loads
    rw [Trail.next_of_none own]
    refine ⟨⟨members, holds, merged⟩, fun other => ?_⟩
    by_cases same : other = side
    · subst same
      simp only [Function.update_self]
      exact ⟨trail.kept, members, rfl, rfl, holds.statuses, merged⟩
    · simp only [Function.update_of_ne same]
      exact traces.stages other
  | replace held replaces =>
    rw [held] at own
    obtain ⟨seen, base, told, rfl, statuses, merged⟩ := own
    obtain ⟨fields, merges, holds⟩ := holds_of_replaceBy statuses replaces
    rw [Trail.next_of_some told]
    refine ⟨⟨_, holds, ?_⟩, fun other => ?_⟩
    · rw [List.map_append]
      exact merged.concat merges
    · by_cases same : other = side
      · subst same
        simp only [Function.update_self]
        trivial
      · simp only [Function.update_of_ne same]
        exact traces.stages other

theorem traces_of_advances (advances : Advances path writers schedule before finish)
    (traces : Traces path writers initial trail before) :
    Traces path writers initial (schedule.foldl Trail.next trail) finish := by
  induction advances generalizing trail with
  | nil => exact traces
  | cons advance rest ih => exact ih (traces_of_advance advance traces)

/-- However many patches are made at the same time, the file is what the kept ones make of it. -/
theorem holds_of_advances {disk : Disk} (holds : Holds path disk initial)
    (advances : Advances path writers schedule (.start disk) finish) :
    ∃ final, Holds path finish.disk final ∧
      MergedWith ((kept schedule).map writers) initial final := by
  have first : Traces path writers initial ⟨[], fun _ => none⟩ (.start disk) :=
    ⟨⟨initial, holds, mergedWith_nil initial⟩, fun _ => rfl⟩
  exact (traces_of_advances advances first).held

inductive Side where
  | first
  | second
  deriving DecidableEq, Repr

def Side.other : Side → Side
  | first => second
  | second => first

theorem length_eq_counts (schedule : List Side) :
    schedule.length = schedule.count .first + schedule.count .second := by
  induction schedule with
  | nil => rfl
  | cons side rest ih => cases side <;> simp [ih] <;> omega

/-- One patch is done before the other one starts. -/
def Serial (schedule : List Side) : Prop :=
  ∃ one : Side, schedule = [one, one, one.other, one.other]

/-- Two patches that are not made one after the other have both loaded the file before one of them
replaces it. -/
theorem serial_or_overlapping {schedule : List Side} (counts : ∀ side, schedule.count side = 2) :
    Serial schedule ∨ ∃ last : Side, schedule = [last, last.other, last.other, last] ∨
      schedule = [last.other, last, last.other, last] := by
  have length : schedule.length = 4 := by
    rw [length_eq_counts, counts, counts]
  match schedule, length with
  | [a, b, c, d], _ =>
    have firsts := counts .first
    unfold Serial
    cases a <;> cases b <;> cases c <;> cases d <;> first
      | exact absurd firsts (by decide)
      | exact .inl ⟨.first, rfl⟩
      | exact .inl ⟨.second, rfl⟩
      | exact .inr ⟨.first, .inl rfl⟩
      | exact .inr ⟨.first, .inr rfl⟩
      | exact .inr ⟨.second, .inl rfl⟩
      | exact .inr ⟨.second, .inr rfl⟩

/-- Patches of two statuses, or of fields of one status that differ. -/
def Change.Apart (one other : Change) : Prop :=
  one.name = other.name → ∀ fields others, one.patch = .object fields →
    other.patch = .object others → ∀ key ∈ Keyed.names fields, key ∉ Keyed.names others

def Change.Idle (change : Change) (members : List (String × Json)) : Prop :=
  (entryOf members change.name).mergePatch change.patch = .ok (entryOf members change.name)

theorem foldlM_pair {fields : List (String × Json)} {one other merged : Json} :
    [one, other].foldlM Json.mergePatch (.object fields) = .ok merged ↔
      ∃ changes others, one = .object changes ∧ other = .object others ∧
        merged = .object (Json.patchMembers (Json.patchMembers fields changes) others) := by
  rw [List.foldlM_cons]
  constructor
  · intro merges
    cases first : (Json.object fields).mergePatch one with
    | error failure =>
      rw [first] at merges
      cases merges
    | ok between =>
      obtain ⟨changes, rfl, rfl⟩ := Json.mergePatch_object.1 first
      rw [first] at merges
      have second := (foldlM_single _ _).symm.trans merges
      obtain ⟨others, rfl, rfl⟩ := Json.mergePatch_object.1 second
      exact ⟨changes, others, rfl, rfl, rfl⟩
  · rintro ⟨changes, others, rfl, rfl, rfl⟩
    rfl

variable {lost last : Change} {final : List (String × Json)}

/-- Where the statuses of other names are told apart, each is what its own patch made of it. -/
theorem MergedWith.own {changes : List Change} (merged : MergedWith changes initial final)
    (all : patchesOf lost.name changes = [lost.patch]) :
    (entryOf initial lost.name).mergePatch lost.patch = .ok (entryOf final lost.name) := by
  have told := merged lost.name
  rwa [all, foldlM_single] at told

/-- Where both patches of an entry are there, but it is as the one of them left it, the other one changes
nothing before it, or nothing after it. -/
theorem same_of_both {fields others : List (String × Json)} (named : lost.name = last.name)
    (entry : entryOf initial lost.name = .object fields) (ends : last.patch = .object others)
    (result : entryOf final lost.name = .object (Json.patchMembers fields others))
    (both : MergedWith [lost, last] initial final ∨ MergedWith [last, lost] initial final) :
    ∃ changes, lost.patch = .object changes ∧
      (Json.patchMembers (Json.patchMembers fields changes) others =
          Json.patchMembers fields others ∨
        Json.patchMembers (Json.patchMembers fields others) changes =
          Json.patchMembers fields others) := by
  have pair : patchesOf lost.name [lost, last] = [lost.patch, last.patch] := by
    simp [patchesOf, named]
  have turned : patchesOf lost.name [last, lost] = [last.patch, lost.patch] := by
    simp [patchesOf, named]
  rcases both with before | after
  · have told := before lost.name
    rw [pair, entry, result, ends, foldlM_pair] at told
    obtain ⟨changes, _, starts, ⟨rfl⟩, same⟩ := told
    exact ⟨changes, starts, .inl (Json.object.inj same).symm⟩
  · have told := after lost.name
    rw [turned, entry, result, ends, foldlM_pair] at told
    obtain ⟨_, changes, ⟨rfl⟩, starts, same⟩ := told
    exact ⟨changes, starts, .inr (Json.object.inj same).symm⟩

/-- Where one patch is all that was merged, and yet both are there, the other one would change nothing. -/
theorem idle_of_both (statuses : Statuses initial) (apart : lost.Apart last)
    (alone : MergedWith [last] initial final)
    (both : MergedWith [lost, last] initial final ∨ MergedWith [last, lost] initial final) :
    lost.Idle initial := by
  unfold Change.Idle
  by_cases named : lost.name = last.name
  · obtain ⟨fields, entry⟩ := statuses.entryOf_object lost.name
    have own := alone.own (patchesOf_same last)
    rw [← named, entry] at own
    obtain ⟨others, ends, result⟩ := Json.mergePatch_object.1 own
    obtain ⟨changes, starts, same⟩ := same_of_both named entry ends result both
    have lawful := lost.settled
    rw [starts] at lawful
    have distinct := (Json.settled_object_iff.1 lawful).1
    have stays := Json.patchMembers_eq_self_of_apart distinct
      (apart named changes others starts ends) same
    rw [entry, starts]
    exact Json.mergePatch_object.2 ⟨changes, rfl, congrArg Json.object stays.symm⟩
  · have stays : entryOf initial lost.name = entryOf final lost.name := by
      have told := alone lost.name
      rw [patchesOf_other (Ne.symm named)] at told
      exact Except.ok.inj told
    have before : patchesOf lost.name [lost, last] = [lost.patch] := by
      simp [patchesOf, Ne.symm named]
    have after : patchesOf lost.name [last, lost] = [lost.patch] := by
      simp [patchesOf, Ne.symm named]
    have told := both.elim (MergedWith.own · before) (MergedWith.own · after)
    rwa [← stays] at told

theorem MergedWith.cons_idle {changes : List Change} (merged : MergedWith changes initial final)
    (idle : lost.Idle initial) : MergedWith (lost :: changes) initial final := by
  intro name
  rw [← List.singleton_append, patchesOf_append]
  by_cases same : lost.name = name
  · subst same
    rw [patchesOf_same, List.foldlM_append, foldlM_single, idle]
    exact merged lost.name
  · rw [patchesOf_other same, List.nil_append]
    exact merged name

/-- The statuses are what the two patches make of the first ones, one after the other. -/
def Both (writers : Side → Change) (initial final : List (String × Json)) : Prop :=
  ∃ one : Side, MergedWith [writers one, writers one.other] initial final

theorem both_iff {writers : Side → Change} (last : Side) :
    Both writers initial final ↔ MergedWith [writers last.other, writers last] initial final ∨
      MergedWith [writers last, writers last.other] initial final := by
  constructor
  · rintro ⟨one, merged⟩
    cases one <;> cases last <;> first | exact .inl merged | exact .inr merged
  · rintro (merged | merged)
    · refine ⟨last.other, ?_⟩
      cases last <;> exact merged
    · exact ⟨last, merged⟩

theorem apart_other {writers : Side → Change} (apart : (writers .first).Apart (writers .second))
    (last : Side) : (writers last.other).Apart (writers last) := by
  cases last with
  | first =>
    intro named fields others starts ends key held other
    exact apart named.symm others fields ends starts key other held
  | second => exact apart

/-- Of two calls of `patch_status` that overlap only the one that replaces the file last is kept. So both
are there where one is done before the other one starts, and else only where the one that is lost would
change nothing. -/
theorem overtaken_patch_is_lost {disk : Disk} {writers : Side → Change} {schedule : List Side}
    {finish : Rivals Side} (holds : Holds path disk initial)
    (advances : Advances path writers schedule (.start disk) finish)
    (ended : ∀ side, finish.stage side = .done)
    (apart : (writers .first).Apart (writers .second)) :
    ∃ final last, Holds path finish.disk final ∧ schedule.getLast? = some last ∧
      (Serial schedule → MergedWith [writers last.other, writers last] initial final) ∧
      (¬Serial schedule → MergedWith [writers last] initial final) ∧
      (Both writers initial final ↔ Serial schedule ∨ (writers last.other).Idle initial) := by
  have counts (side : Side) : schedule.count side = 2 := by
    have left := left_of_advances advances side
    rw [ended side] at left
    exact left.symm
  obtain ⟨final, held, merged⟩ := holds_of_advances holds advances
  rcases serial_or_overlapping counts with serial | ⟨last, overlapping⟩
  · obtain ⟨one, rfl⟩ := serial
    have order : kept [one, one, one.other, one.other] = [one, one.other] := by
      cases one <;> rfl
    have turned : one.other.other = one := by
      cases one <;> rfl
    have serial : Serial [one, one, one.other, one.other] := ⟨one, rfl⟩
    rw [order] at merged
    refine ⟨final, one.other, held, rfl, fun _ => ?_, fun other => absurd serial other, ?_⟩
    · rw [turned]
      exact merged
    · exact ⟨fun _ => .inl serial, fun _ => ⟨one, merged⟩⟩
  · have alone : kept schedule = [last] := by
      rcases overlapping with rfl | rfl <;> cases last <;> rfl
    have ends : schedule.getLast? = some last := by
      rcases overlapping with rfl | rfl <;> rfl
    have overlaps : ¬Serial schedule := by
      rintro ⟨one, rfl⟩
      rcases overlapping with same | same <;> cases one <;> cases last <;> cases same
    rw [alone] at merged
    refine ⟨final, last, held, ends, fun serial => absurd serial overlaps, fun _ => merged, ?_⟩
    constructor
    · exact fun both => .inr (idle_of_both holds.statuses (apart_other apart last) merged
        ((both_iff last).1 both))
    · rintro (serial | idle)
      · exact absurd serial overlaps
      · exact (both_iff last).2 (.inl (merged.cons_idle idle))

/-- Two bastions of an office that become ready at the same time. -/
def officeWriters : Side → Change
  | .first => ⟨"bastion-1", .object [("phase", .string "Ready")], by decide⟩
  | .second => ⟨"bastion-2", .object [("phase", .string "Ready")], by decide⟩

def emptyStatuses : Disk :=
  .ofTree (Files.Tree.empty.put (Path.ofString "status.json").spot (.file "\x7b\x7d"))

/-- What one of these patches makes of a file when it has loaded an empty document. -/
def officeReplacing (side : Side) (disk : Disk) : Run Files.signature Disk Unit :=
  (replaceBy (Path.ofString "status.json") (officeWriters side).name (officeWriters side).patch
    (.object [])).run Disk.handler disk

/-- Both patches return, and the bastion that replaced the file first has no status. -/
theorem overtaken_patch_is_lost_office :
    let path := Path.ofString "status.json"
    let ready := Json.object [("phase", .string "Ready")]
    ∃ finish, Advances path officeWriters [.first, .second, .second, .first] (.start emptyStatuses)
        finish ∧ (∀ side, finish.stage side = .done) ∧
      (get path "bastion-1").Returns Disk.handler finish.disk ready finish.disk ∧
      (get path "bastion-2").Returns Disk.handler finish.disk (.object []) finish.disk := by
  have once : (officeReplacing .second emptyStatuses).result = .ok () := by decide +kernel
  have twice : (officeReplacing .first (officeReplacing .second emptyStatuses).state).result =
      .ok () := by decide +kernel
  have holds : Holds (Path.ofString "status.json") emptyStatuses [] :=
    .present rfl (by decide +kernel) nofun
  obtain ⟨finish, advances, ended⟩ : ∃ finish,
      Advances (Path.ofString "status.json") officeWriters [.first, .second, .second, .first]
        (.start emptyStatuses) finish ∧ ∀ side, finish.stage side = .done :=
    ⟨_, .cons (.load rfl holds.loads) (.cons (.load rfl holds.loads)
      (.cons (.replace rfl (returns_of_ok once)) (.cons (.replace rfl (returns_of_ok twice)) .nil))),
      fun side => by cases side <;> rfl⟩
  have apart : (officeWriters .first).Apart (officeWriters .second) :=
    fun named => absurd named (by decide)
  obtain ⟨final, last, held, ends, _, alone, _⟩ :=
    overtaken_patch_is_lost holds advances ended apart
  obtain rfl : Side.first = last := Option.some.inj ends
  have overlaps : ¬Serial [.first, .second, .second, .first] := by
    rintro ⟨one, same⟩
    cases one <;> cases same
  have merged := alone overlaps
  have kept : Json.object [("phase", .string "Ready")] = entryOf final "bastion-1" :=
    Except.ok.inj (merged "bastion-1")
  have lost : Json.object [] = entryOf final "bastion-2" := Except.ok.inj (merged "bastion-2")
  refine ⟨finish, advances, ended, ?_, ?_⟩
  · rw [kept]
    exact held.get "bastion-1"
  · rw [lost]
    exact held.get "bastion-2"

end Bastion.Status
