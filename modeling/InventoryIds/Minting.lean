import InventoryIds.Counters
import InventoryIds.Format.Admission
import InventoryIds.Rendering

/-!
# Minting

A mint makes identifiers: it reserves an ordinal if the format shows one, reads the clock, and
renders. Previews do the same without reserving. `Mint.run` performs calls one after the other.
-/

namespace InventoryIds

/-- A maker of identifiers, with its store of counters, its clock and its randomness. -/
structure Mint (σ : Type) where
  policy : Policy := {}
  store : σ
  clock : Feed Instant
  draws : Feed Draw

structure Preview where
  preview : String
  examples : List String
deriving DecidableEq, Repr

namespace Mint
variable {σ : Type} [CounterStore σ]

def compile (mint : Mint σ) (text : String) : Except FormatError Format :=
  Format.compile text mint.policy

/-- Renders a format in the context that `context` makes of the next reading of the clock. -/
def renderNow (mint : Mint σ) (format : Format) (context : Instant → Context) :
    String × Mint σ :=
  let (now, clock) := mint.clock.next
  let (text, draws) := format.render (context now) mint.draws
  (text, { mint with clock, draws })

def reserveFor (mint : Mint σ) (inventory : InventoryId) (format : Format) :
    Option UInt64 × Mint σ :=
  if format.hasSequence then
    let (number, store) := CounterStore.reserve mint.store inventory
    (some number, { mint with store })
  else (none, mint)

/-- Makes an identifier of a format that was compiled before. -/
def generateFormat (mint : Mint σ) (inventory : InventoryId) (format : Format) :
    String × Mint σ :=
  let (sequence, mint) := mint.reserveFor inventory format
  mint.renderNow format fun now => .commit inventory now sequence

/-- Makes an identifier; a format that is refused changes nothing. -/
def generate (mint : Mint σ) (inventory : InventoryId) (text : String) :
    Except FormatError String × Mint σ :=
  match mint.compile text with
  | .ok format =>
    let (identifier, mint) := mint.generateFormat inventory format
    (.ok identifier, mint)
  | .error error => (.error error, mint)

def sample (mint : Mint σ) (format : Format) : String × Mint σ :=
  mint.renderNow format .preview

def samples (mint : Mint σ) (format : Format) (n : Nat) : List String × Mint σ :=
  collect (sample · format) n mint

def identifiers (mint : Mint σ) (inventory : InventoryId) (format : Format) (n : Nat) :
    List String × Mint σ :=
  collect (generateFormat · inventory format) n mint

/-- Previews a format that was compiled before; an empty format has no examples. -/
def previewFormat (mint : Mint σ) (format : Format) : Preview × Mint σ :=
  let (preview, mint) := mint.sample format
  let wanted := if format.isEmpty then 0 else mint.policy.previewExamples.toNat
  let (examples, mint) := mint.samples format wanted
  ({ preview, examples }, mint)

/-- Previews a format; a format that is refused changes nothing. -/
def preview (mint : Mint σ) (text : String) : Except FormatError Preview × Mint σ :=
  match mint.compile text with
  | .ok format =>
    let (preview, mint) := mint.previewFormat format
    (.ok preview, mint)
  | .error error => (.error error, mint)

end Mint

/-! ### Runs -/

inductive Call where
  | generate (inventory : InventoryId) (text : String)
  | generateFormat (inventory : InventoryId) (format : Format)
  | preview (text : String)
  | previewFormat (format : Format)
  | compile (text : String)
  | reserve (inventory : InventoryId)
  | current (inventory : InventoryId)
  | restore (inventory : InventoryId) (number : UInt64)
  | forget (inventory : InventoryId)
deriving DecidableEq, Repr

inductive Answer where
  | identifier (text : String)
  | preview (preview : Preview)
  | format (format : Format)
  | refused (error : FormatError)
  | number (number : UInt64)
  | counter (number : Option UInt64)
  | done
deriving DecidableEq, Repr

namespace Mint
variable {σ : Type} [CounterStore σ]

def perform (mint : Mint σ) : Call → Answer × Mint σ
  | .generate inventory text =>
    match mint.generate inventory text with
    | (.ok identifier, mint) => (.identifier identifier, mint)
    | (.error error, mint) => (.refused error, mint)
  | .generateFormat inventory format =>
    let (identifier, mint) := mint.generateFormat inventory format
    (.identifier identifier, mint)
  | .preview text =>
    match mint.preview text with
    | (.ok preview, mint) => (.preview preview, mint)
    | (.error error, mint) => (.refused error, mint)
  | .previewFormat format =>
    let (preview, mint) := mint.previewFormat format
    (.preview preview, mint)
  | .compile text =>
    match mint.compile text with
    | .ok format => (.format format, mint)
    | .error error => (.refused error, mint)
  | .reserve inventory =>
    let (number, store) := CounterStore.reserve mint.store inventory
    (.number number, { mint with store })
  | .current inventory => (.counter (CounterStore.current? mint.store inventory), mint)
  | .restore inventory number =>
    (.done, { mint with store := CounterStore.restore mint.store inventory number })
  | .forget inventory =>
    let (number, store) := CounterStore.forget mint.store inventory
    (.counter number, { mint with store })

def run (mint : Mint σ) : List Call → List Answer × Mint σ
  | [] => ([], mint)
  | call :: calls =>
    let (answer, mint) := mint.perform call
    let (answers, mint) := mint.run calls
    (answer :: answers, mint)

end Mint
end InventoryIds
