import Bastion.Status.Store

set_option autoImplicit false

namespace Bastion

/-- A call of another signature, or a patch of the status of a bastion. -/
inductive StatusOr (S : Signature) where
  | other (op : S.Op)
  | patchStatus (name : String) (patch : Json)

/-- The calls of a signature, and patches of a status besides. -/
@[reducible]
def Signature.withStatus (S : Signature) : Signature where
  Op := StatusOr S
  Answer
    | .other op => S.Answer op
    | .patchStatus .. => Unit

namespace Program

variable {S T : Signature} {α : Type}

def embed : Program S α → Program S.withStatus α
  | .done value => .done value
  | .fail failure => .fail failure
  | .log line rest => .log line fun answer => (rest answer).embed
  | .call op rest => .call (S := S.withStatus) (.other op) fun answer => (rest answer).embed

/-- Carries out all calls but the patches of a status. -/
def callsBesideStatusBy (carryOut : (op : S.Op) → Program T (S.Answer op)) :
    Program S.withStatus α → Program T.withStatus α :=
  callsBy fun
    | .other op => (carryOut op).embed
    | .patchStatus name patch => perform (S := T.withStatus) (.patchStatus name patch)

end Program

/-- A world, the disk beside it and the path of the statuses there. A status writer may be set to fail
at its next patches. -/
structure Site (κ : Type) where
  world : κ
  disk : Files.Disk
  statusPath : Files.Path
  writerFaults : List (Option Failure)

namespace Site

variable {κ : Type}

/-- Patches a status, with the log of the store shown in a journal. -/
def patchStatusTo (journal : Journal) (site : Site κ) (name : String) (patch : Json) :
    Step (Site κ) Unit :=
  match site.writerFaults with
  | some failure :: rest => ⟨.error failure, { site with writerFaults := rest }, []⟩
  | faults =>
    let run := ((Status.patch site.statusPath name patch).loggedTo journal).run
      Files.Disk.handler site.disk
    ⟨run.result, { site with disk := run.state, writerFaults := faults.tail }, run.log⟩

def patchStatus (site : Site κ) (name : String) (patch : Json) : Step (Site κ) Unit :=
  site.patchStatusTo .silent name patch

def handlerTo {S : Signature} (journal : Journal) (inner : Handler S κ) :
    Handler S.withStatus (Site κ)
  | .other op, site =>
    let step := inner op site.world
    ⟨step.answer, { site with world := step.state }, step.log⟩
  | .patchStatus name patch, site => site.patchStatusTo journal name patch

def handler {S : Signature} (inner : Handler S κ) : Handler S.withStatus (Site κ) :=
  handlerTo .silent inner

/-- The text of the status file, none where there is no such file. -/
def statusText (site : Site κ) : Option String :=
  (site.disk.tree.read site.statusPath).toOption

end Site

end Bastion
