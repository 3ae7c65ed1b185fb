import EntityTagger.Error
import EntityTagger.Number.Integer

/-!
Devices: what a model is moved to. A request names a kind of device, perhaps with an index; a CUDA
device has to be present.
-/

namespace EntityTagger

structure Device where
  kind : Text
  index : Option Nat
deriving DecidableEq, Repr

namespace Device

def kinds : List Text :=
  ["cpu", "cuda", "ipu", "xpu", "mkldnn", "opengl", "opencl", "ideep", "hip", "ve", "fpga", "maia",
    "xla", "lazy", "vulkan", "mps", "meta", "hpu", "mtia", "privateuseone"].map text

def cpu : Device := ⟨text "cpu", none⟩

def cuda (index : Option Nat) : Device := ⟨text "cuda", index⟩

def toText (d : Device) : Text :=
  match d.index with
  | none => d.kind
  | some n => d.kind ++ text ":" ++ Text.ofNat n

def index? (t : Text) : Option Nat :=
  if t.isEmpty || !t.all Text.isDigit || (t.head? = some 48 && t != [48]) then none
  else some (Text.digitsValue t)

def ofText? (t : Text) : Option Device :=
  match Text.splitAt 58 t with
  | [kind] => if kinds.contains kind then some ⟨kind, none⟩ else none
  | [kind, index] =>
    if kinds.contains kind then (index? index).map fun n => ⟨kind, some n⟩ else none
  | _ => none

/-- The device that a request names; a number is the index of a CUDA device. -/
def ofRequest? : Value → Option Device
  | .str t => ofText? t
  | .int n => if 0 ≤ n then some (cuda (some n.toNat)) else none
  | _ => none

def best : Text := text "auto"

/-- A device that cannot be used. -/
def refuse (fault : ResourceFault) : Except Error Device :=
  .error (.resource ⟨.device, none, fault⟩)

/-- A device if there is such a one on a machine with the given number of CUDA devices. -/
def check (cudaDevices : Nat) (d : Device) : Except Error Device :=
  if d.kind ≠ text "cuda" then .ok d
  else if cudaDevices = 0 then refuse (.cudaMissing d.toText)
  else match d.index with
    | none => .ok d
    | some n => if n < cudaDevices then .ok d else refuse (.cudaIndex d.toText cudaDevices)

/-- The device for a request, on a machine with the given number of CUDA devices. -/
def resolve (cudaDevices : Nat) (request : Value) : Except Error Device :=
  match request with
  | .str t =>
    if t = best then .ok (if 0 < cudaDevices then cuda none else cpu)
    else match ofText? t with
      | some d => check cudaDevices d
      | none => refuse (.invalidDevice request)
  | request =>
    match ofRequest? request with
    | some d => check cudaDevices d
    | none => refuse (.invalidDevice request)

end Device

end EntityTagger
