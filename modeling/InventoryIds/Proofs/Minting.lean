import InventoryIds.Minting
import InventoryIds.Proofs.CounterSteps
import InventoryIds.Proofs.Outcomes
import InventoryIds.Proofs.Rendering

/-!
# What calls do

A call renders formats, one reading of the clock for each, and may change one counter.
`perform_snd_eq` says what a call leaves of a mint, `current?_changeStore` how a counter changes,
and `perform_of_target` which identifier a call makes.
-/

namespace InventoryIds

/-- The store after an identifier of a format is made for an inventory. -/
def reserveShown {σ : Type} [CounterStore σ] (store : σ) (inventory : InventoryId)
    (format : Format) : σ :=
  if format.hasSequence then (CounterStore.reserve store inventory).2 else store

def Format.examples (format : Format) (policy : Policy) : Nat :=
  if format.isEmpty then 0 else policy.previewExamples.toNat

namespace Call

/-- The inventory and the format of the identifier that a call makes, if it makes one. -/
def target? (policy : Policy) : Call → Option (InventoryId × Format)
  | generate inventory text => (Format.compile text policy).toOption.map (inventory, ·)
  | generateFormat inventory format => some (inventory, format)
  | _ => none

def previewed? (policy : Policy) : Call → Option Format
  | preview text => (Format.compile text policy).toOption
  | previewFormat format => some format
  | _ => none

def rendered (policy : Policy) (call : Call) : List Format :=
  match call.target? policy, call.previewed? policy with
  | some (_, format), _ => [format]
  | none, some format => List.replicate (1 + format.examples policy) format
  | none, none => []

/-- What a call does to the counter of an inventory, if it does anything. -/
def step? (policy : Policy) (inventory : InventoryId) : Call → Option CounterStep
  | reserve i => if i = inventory then some .reserve else none
  | restore i number => if i = inventory then some (.restore number) else none
  | forget i => if i = inventory then some .forget else none
  | call =>
    match call.target? policy with
    | some (i, format) => if i = inventory ∧ format.hasSequence then some .reserve else none
    | none => none

def changeStore {σ : Type} [CounterStore σ] (policy : Policy) (store : σ) : Call → σ
  | reserve i => (CounterStore.reserve store i).2
  | restore i number => CounterStore.restore store i number
  | forget i => (CounterStore.forget store i).2
  | call =>
    match call.target? policy with
    | some (i, format) => reserveShown store i format
    | none => store

theorem step?_of_target {policy : Policy} {call : Call} {i : InventoryId} {format : Format}
    (target : call.target? policy = some (i, format)) (inventory : InventoryId) :
    call.step? policy inventory =
      if i = inventory ∧ format.hasSequence then some .reserve else none := by
  cases call with
  | generate _ _ | generateFormat _ _ => simp only [step?, target]
  | _ => cases target

theorem changeStore_of_target {σ : Type} [CounterStore σ] {policy : Policy} {store : σ}
    {call : Call} {i : InventoryId} {format : Format}
    (target : call.target? policy = some (i, format)) :
    call.changeStore policy store = reserveShown store i format := by
  cases call with
  | generate _ _ | generateFormat _ _ => simp only [changeStore, target]
  | _ => cases target

theorem changeStore_of_previewed {σ : Type} [CounterStore σ] {policy : Policy} {store : σ}
    {call : Call} {format : Format} (previewed : call.previewed? policy = some format) :
    call.changeStore policy store = store := by
  cases call with
  | preview _ | previewFormat _ => rfl
  | _ => cases previewed

theorem current?_reserveShown {σ : Type} [CounterStore σ] [LawfulCounterStore σ] (store : σ)
    (i inventory : InventoryId) (format : Format) :
    CounterStore.current? (reserveShown store i format) inventory =
      counterAfter (CounterStore.current? store inventory)
        (if i = inventory ∧ format.hasSequence then some .reserve else none) := by
  unfold reserveShown
  by_cases shows : format.hasSequence
  · simp only [shows, and_true, if_true]
    exact CounterStore.current?_change store i inventory .reserve
  · rw [if_neg shows, if_neg (fun h => shows h.2), counterAfter]

/-- A call changes the counter of an inventory by its own step only. -/
theorem current?_changeStore {σ : Type} [CounterStore σ] [LawfulCounterStore σ] (policy : Policy)
    (store : σ) (call : Call) (inventory : InventoryId) :
    CounterStore.current? (call.changeStore policy store) inventory =
      counterAfter (CounterStore.current? store inventory) (call.step? policy inventory) := by
  cases call with
  | reserve i => exact CounterStore.current?_change store i inventory .reserve
  | restore i number => exact CounterStore.current?_change store i inventory (.restore number)
  | forget i => exact CounterStore.current?_change store i inventory .forget
  | _ =>
    simp only [changeStore, step?]
    split
    · exact current?_reserveShown _ _ _ _
    · rfl

end Call

namespace Mint
variable {σ : Type}

def advance (mint : Mint σ) (readings draws : Nat) : Mint σ :=
  { mint with clock := mint.clock.advance readings, draws := mint.draws.advance draws }

theorem advance_advance (mint : Mint σ) (readings draws moreReadings moreDraws : Nat) :
    (mint.advance readings draws).advance moreReadings moreDraws =
      mint.advance (readings + moreReadings) (draws + moreDraws) := by
  simp [advance]

/-! ### Renderings -/

theorem renderNow_eq (mint : Mint σ) (format : Format) (context : Instant → Context) :
    mint.renderNow format context =
      ((format.render (context mint.clock.head) mint.draws).1, mint.advance 1 format.draws) := by
  unfold renderNow
  simp only [Format.render_eq]
  rfl

theorem sample_snd (mint : Mint σ) (format : Format) :
    (mint.sample format).2 = mint.advance 1 format.draws := by
  rw [sample, renderNow_eq]

theorem samples_snd (mint : Mint σ) (format : Format) (n : Nat) :
    (mint.samples format n).2 = mint.advance n (n * format.draws) := by
  unfold samples
  induction n generalizing mint with
  | zero => simp [advance]
  | succ n ih =>
    rw [collect_succ]
    dsimp only
    rw [ih, sample_snd, advance_advance, Nat.succ_mul, Nat.add_comm 1, Nat.add_comm format.draws]

def afterRendering (mint : Mint σ) (formats : List Format) : Mint σ :=
  mint.advance formats.length (formats.map Format.draws).sum

theorem previewFormat_snd (mint : Mint σ) (format : Format) :
    (mint.previewFormat format).2 =
      mint.afterRendering (List.replicate (1 + format.examples mint.policy) format) := by
  unfold previewFormat
  dsimp only
  rw [samples_snd, sample_snd, advance_advance, afterRendering, List.length_replicate,
    List.map_replicate, List.sum_replicate_nat, Nat.add_mul, Nat.one_mul]
  rfl

variable [CounterStore σ]

def counter (mint : Mint σ) (inventory : InventoryId) : UInt64 :=
  (CounterStore.current? mint.store inventory).getD 0

/-- The number that an identifier shows, if its format shows one. -/
def reservation? (mint : Mint σ) (inventory : InventoryId) (format : Format) : Option UInt64 :=
  if format.hasSequence then some (CounterStore.reserve mint.store inventory).1 else none

/-- What the tokens of the identifier share that is made next of a format. -/
def nextContext (mint : Mint σ) (inventory : InventoryId) (format : Format) : Context :=
  .commit inventory mint.clock.head (mint.reservation? inventory format)

theorem ordinal_nextContext [LawfulCounterStore σ] (mint : Mint σ) (inventory : InventoryId)
    {format : Format} (shows : format.hasSequence) :
    (mint.nextContext inventory format).ordinal = (mint.counter inventory).toNat + 1 := by
  rw [nextContext, reservation?, if_pos shows, LawfulCounterStore.reserve_fst]
  rfl

def nextIdentifier (mint : Mint σ) (inventory : InventoryId) (format : Format) : String :=
  (format.render (mint.nextContext inventory format) mint.draws).1

theorem generateFormat_eq (mint : Mint σ) (inventory : InventoryId) (format : Format) :
    mint.generateFormat inventory format =
      (mint.nextIdentifier inventory format,
        { mint.afterRendering [format] with
          store := reserveShown mint.store inventory format }) := by
  unfold generateFormat reserveFor nextIdentifier nextContext reservation? reserveShown
  by_cases shows : format.hasSequence
  · simp only [shows, if_true, renderNow_eq]
    rfl
  · simp only [shows, renderNow_eq]
    rfl

/-! ### Calls -/

/-- A call that makes an identifier makes the next one of its format. -/
theorem perform_of_target {mint : Mint σ} {call : Call} {inventory : InventoryId} {format : Format}
    (target : call.target? mint.policy = some (inventory, format)) :
    mint.perform call =
      (.identifier (mint.nextIdentifier inventory format),
        { mint.afterRendering [format] with
          store := reserveShown mint.store inventory format }) := by
  cases call with
  | generate i text =>
    cases compiled : Format.compile text mint.policy with
    | ok read =>
      simp only [Call.target?, compiled] at target
      cases target
      simp only [perform, generate, compile, compiled, generateFormat_eq]
    | error error =>
      simp only [Call.target?, compiled] at target
      cases target
  | generateFormat i f =>
    cases target
    simp only [perform, generateFormat_eq]
  | _ => cases target

theorem perform_of_previewed {mint : Mint σ} {call : Call} {format : Format}
    (previewed : call.previewed? mint.policy = some format) :
    mint.perform call =
      (.preview (mint.previewFormat format).1, (mint.previewFormat format).2) := by
  cases call with
  | preview text =>
    cases compiled : Format.compile text mint.policy with
    | ok read =>
      simp only [Call.previewed?, compiled] at previewed
      cases previewed
      simp only [perform, preview, compile, compiled]
    | error error =>
      simp only [Call.previewed?, compiled] at previewed
      cases previewed
  | previewFormat f =>
    cases previewed
    rfl
  | _ => cases previewed

theorem perform_of_rendered_nil {mint : Mint σ} {call : Call}
    (target : call.target? mint.policy = none) (previewed : call.previewed? mint.policy = none) :
    (mint.perform call).2 = { mint with store := call.changeStore mint.policy mint.store } := by
  cases call with
  | generate i text =>
    cases compiled : Format.compile text mint.policy with
    | ok format =>
      simp only [Call.target?, compiled] at target
      cases target
    | error error => simp only [perform, generate, compile, compiled, Call.changeStore, target]
  | preview text =>
    cases compiled : Format.compile text mint.policy with
    | ok format =>
      simp only [Call.previewed?, compiled] at previewed
      cases previewed
    | error error => simp only [perform, preview, compile, compiled, Call.changeStore, target]
  | compile text =>
    cases compiled : Format.compile text mint.policy <;>
      simp only [perform, compile, compiled, Call.changeStore, target]
  | generateFormat i format => cases target
  | previewFormat format => cases previewed
  | _ => rfl

/-- A call leaves a mint with the formats rendered that it renders, and the store changed. -/
theorem perform_snd_eq (mint : Mint σ) (call : Call) :
    (mint.perform call).2 =
      { mint.afterRendering (call.rendered mint.policy) with
        store := call.changeStore mint.policy mint.store } := by
  -- A call renders for an identifier, or for a preview, or not at all.
  cases target : call.target? mint.policy with
  | some made =>
    obtain ⟨i, format⟩ := made
    rw [perform_of_target target, Call.rendered, target, Call.changeStore_of_target target]
  | none =>
    cases previewed : call.previewed? mint.policy with
    | some format =>
      rw [perform_of_previewed previewed, previewFormat_snd, Call.rendered, target, previewed,
        Call.changeStore_of_previewed previewed]
      rfl
    | none =>
      rw [perform_of_rendered_nil target previewed, Call.rendered, target, previewed]
      rfl

theorem perform_policy (mint : Mint σ) (call : Call) :
    (mint.perform call).2.policy = mint.policy := by
  rw [perform_snd_eq]
  rfl

theorem current?_perform [LawfulCounterStore σ] (mint : Mint σ) (call : Call)
    (inventory : InventoryId) :
    CounterStore.current? (mint.perform call).2.store inventory =
      counterAfter (CounterStore.current? mint.store inventory)
        (call.step? mint.policy inventory) := by
  rw [perform_snd_eq]
  exact Call.current?_changeStore mint.policy mint.store call inventory

end Mint
end InventoryIds
