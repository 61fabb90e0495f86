import InventoryIds.Proofs.Json.Scalars

/-!
# Lists and objects read back

The elements of a list are read back if each of them is (`reads_readList`), and the first one that
is not gives its fault (`readList_of_fault`). The fields of an object are taken in one after the
other (`fields_of_absorbs`). `Yields` says of a reader what holds of all that it reads, whatever the
text.
-/

namespace InventoryIds

/-- Texts with a comma in front of each, but for the very first. -/
def commaSeparated (first : Bool) : List (List Char) → List Char
  | [] => []
  | text :: texts => (if first then [] else [',']) ++ text ++ commaSeparated false texts

theorem commaSeparated_append (first : Bool) (before after : List (List Char)) :
    commaSeparated first (before ++ after) =
      commaSeparated first before ++ commaSeparated (first && before.isEmpty) after := by
  induction before generalizing first with
  | nil => simp [commaSeparated]
  | cons text before ih => simp [commaSeparated, ih]

theorem length_le_commaSeparated {texts : List (List Char)} (filled : ∀ text ∈ texts, text ≠ [])
    (first : Bool) : texts.length ≤ (commaSeparated first texts).length := by
  induction texts generalizing first with
  | nil => exact Nat.zero_le _
  | cons text texts ih =>
    obtain ⟨head, tail⟩ := List.forall_mem_cons.mp filled
    have positive := List.length_pos_iff.mpr head
    have rest := ih tail false
    simp only [commaSeparated, List.length_append, List.length_cons]
    omega

namespace Json

theorem compactItems_eq (items : List Json) :
    compactItems items = commaSeparated true (items.map compactChars) := by
  induction items with
  | nil => rfl
  | cons item items ih =>
    cases items with
    | nil => simp [compactItems, commaSeparated]
    | cons next items =>
      rw [compactItems, ih]
      · simp [commaSeparated]
      · exact nofun

def fieldChars (field : String × Json) : List Char := quote field.1 ++ ':' :: field.2.compactChars

theorem compactFields_eq (fields : List (String × Json)) :
    compactFields fields = commaSeparated true (fields.map fieldChars) := by
  induction fields with
  | nil => rfl
  | cons field fields ih =>
    cases fields with
    | nil => simp [compactFields, commaSeparated, fieldChars]
    | cons next fields =>
      rw [compactFields, ih]
      · simp [commaSeparated, fieldChars]
      · exact nofun

theorem compactChars_array (items : List Json) :
    compactChars (array items) = '[' :: (commaSeparated true (items.map compactChars) ++ [']']) := by
  rw [compactChars, compactItems_eq, List.cons_append]

theorem compactChars_object (fields : List (String × Json)) :
    compactChars (object fields) =
      '{' :: (commaSeparated true (fields.map fieldChars) ++ ['}']) := by
  rw [compactChars, compactFields_eq, List.cons_append]

end Json

namespace Reader
variable {α σ : Type}

theorem closing_cons {c : Char} (visible : isBlank c = false) (rest : List Char) :
    closing c (c :: rest) = .ok ((), rest) := by
  rw [closing, bind_of_ok (peek_cons visible _)]
  simp only [if_true]
  rfl

theorem ne_nil_of_opens {text : List Char} (opens : Opens text) : text ≠ [] := by
  rintro rfl
  obtain ⟨_, first, -⟩ := opens
  cases first

theorem ends_commaSeparated (texts : List (List Char)) {rest : List Char} (ends : Ends rest) :
    Ends (commaSeparated false texts ++ rest) := by
  cases texts with
  | nil => exact ends
  | cons text texts => exact ends_cons (.inl rfl) _

/-! ### Lists -/

theorem peek_of_opens {text : List Char} (opens : Opens text) (rest : List Char) :
    ∃ c, c ≠ ']' ∧ peek (text ++ rest) = .ok (some c, text ++ rest) := by
  obtain ⟨c, first, visible, other⟩ := opens
  cases text with
  | nil => cases first
  | cons d text =>
    obtain rfl := Option.some.inj first
    exact ⟨d, other, peek_cons visible _⟩

theorem moreElements_of_opens {text : List Char} (first : Bool) (opens : Opens text)
    (rest : List Char) :
    moreElements first ((if first then [] else [',']) ++ (text ++ rest)) =
      .ok (true, text ++ rest) := by
  obtain ⟨c, other, peeked⟩ := peek_of_opens opens rest
  cases first with
  | true =>
    show moreElements true (text ++ rest) = _
    rw [moreElements, bind_of_ok peeked]
    simp only [if_true]
    rfl
  | false =>
    have comma : peek (',' :: (text ++ rest)) = .ok (some ',', ',' :: (text ++ rest)) :=
      peek_cons rfl _
    have passed : advance (',' :: (text ++ rest)) = .ok ((), text ++ rest) := rfl
    show moreElements false (',' :: (text ++ rest)) = _
    have apart : ',' ≠ ']' := by decide
    rw [moreElements, bind_of_ok comma]
    simp only [Bool.false_eq_true, if_false, if_true]
    rw [bind_of_ok passed, bind_of_ok peeked]
    simp only
    rfl

theorem element?_of_opens {reader : Reader α} {text : List Char} (first : Bool) (opens : Opens text)
    (rest : List Char) :
    element? first reader ((if first then [] else [',']) ++ (text ++ rest)) =
      (do return some (← reader)) (text ++ rest) := by
  rw [element?, bind_of_ok (moreElements_of_opens first opens rest)]
  rfl

theorem elementsUpTo_close (reader : Reader α) (fuel : Nat) (first : Bool) (rest : List Char) :
    elementsUpTo reader (fuel + 1) first (']' :: rest) = .ok ([], rest) := rfl

/-- Elements at the front are read, and then what stands behind them. -/
theorem elementsUpTo_append {reader : Reader α} {write : α → List Char} {items : List α}
    (reads : ∀ item ∈ items, Reads reader (write item) item) (first : Bool) {rest : List Char}
    (ends : items ≠ [] → Ends rest) (fuel : Nat) :
    elementsUpTo reader (fuel + items.length) first
        (commaSeparated first (items.map write) ++ rest) =
      (elementsUpTo reader fuel (first && items.isEmpty) rest >>=
        fun result => .ok (items ++ result.1, result.2)) := by
  -- Only the very first element stands without a comma, so `first` turns false behind it.
  induction items generalizing first with
  | nil =>
    rw [List.isEmpty_nil, Bool.and_true]
    exact (bind_pure _).symm
  | cons item items ih =>
    obtain ⟨head, tail⟩ := List.forall_mem_cons.mp reads
    have ends := ends (List.cons_ne_nil _ _)
    have others := ih tail false fun _ => ends
    have next : Ends (commaSeparated false (items.map write) ++ rest) := ends_commaSeparated _ ends
    have taken : element? first reader ((if first then [] else [',']) ++
        (write item ++ (commaSeparated false (items.map write) ++ rest))) =
        .ok (some item, commaSeparated false (items.map write) ++ rest) := by
      rw [element?_of_opens first head.opens, bind_of_ok (head.reads _ next)]
      rfl
    rw [List.length_cons, ← Nat.add_assoc, elementsUpTo, List.map_cons, commaSeparated,
      List.append_assoc, List.append_assoc, bind_of_ok taken]
    show (do return item :: (← elementsUpTo reader (fuel + items.length) false) :
      Reader (List α)) _ = _
    rw [bind_apply, others, List.isEmpty_cons, Bool.and_false, Bool.false_and]
    cases elementsUpTo reader fuel false rest <;> rfl

/-- Reading the elements of a list comes to the text behind those at the front with fuel left. -/
theorem elements_append {reader : Reader α} {write : α → List Char} {items : List α}
    (reads : ∀ item ∈ items, Reads reader (write item) item) {rest : List Char}
    (ends : items ≠ [] → Ends rest) :
    ∃ fuel, elements true reader (commaSeparated true (items.map write) ++ rest) =
      (elementsUpTo reader (fuel + 1) items.isEmpty rest >>=
        fun result => .ok (items ++ result.1, result.2)) := by
  have filled : ∀ text ∈ items.map write, text ≠ [] := by
    intro text member
    obtain ⟨item, inside, rfl⟩ := List.mem_map.mp member
    exact ne_nil_of_opens (reads item inside).opens
  have length := length_le_commaSeparated filled true
  rw [List.length_map] at length
  refine ⟨(commaSeparated true (items.map write)).length - items.length + rest.length, ?_⟩
  have fuel : (commaSeparated true (items.map write) ++ rest).length + 1 =
      (commaSeparated true (items.map write)).length - items.length + rest.length + 1 +
        items.length := by
    rw [List.length_append]
    omega
  rw [elements, fuel, elementsUpTo_append reads true ends, Bool.true_and]

theorem readList_cons (reader : Reader α) (text : List Char) :
    readList reader ('[' :: text) = elements true reader text := rfl

theorem reads_readList {reader : Reader α} {write : α → List Char} {items : List α}
    (reads : ∀ item ∈ items, Reads reader (write item) item) :
    Reads (readList reader) ('[' :: (commaSeparated true (items.map write) ++ [']'])) items where
  opens := ⟨'[', rfl, by decide, by decide⟩
  reads rest _ := by
    obtain ⟨fuel, read⟩ := elements_append reads fun _ => ends_cons (.inr (.inl rfl)) rest
    rw [elementsUpTo_close, ok_bind, List.append_nil] at read
    rw [List.cons_append, readList_cons, List.append_assoc, List.singleton_append, read]

/-- A list is refused for the fault of its first element that cannot be read. -/
theorem readList_of_fault {reader : Reader α} {write : α → List Char} {before : List α}
    {item : α} {fault : ReadError} (reads : ∀ item ∈ before, Reads reader (write item) item)
    (opens : Opens (write item))
    (refused : ∀ rest, Ends rest → reader (write item ++ rest) = .error fault) (after : List α)
    (rest : List Char) :
    readList reader ('[' :: (commaSeparated true ((before ++ item :: after).map write) ++
      ']' :: rest)) = .error fault := by
  have next : Ends (commaSeparated false (after.map write) ++ ']' :: rest) :=
    ends_commaSeparated _ (ends_cons (.inr (.inl rfl)) rest)
  have ends : before ≠ [] →
      Ends (commaSeparated before.isEmpty ((item :: after).map write) ++ ']' :: rest) := by
    intro some
    rw [List.isEmpty_eq_false_iff.mpr some]
    exact ends_cons (.inl rfl) _
  -- The elements in front are read with fuel left, so that the reader comes to the next one.
  obtain ⟨fuel, read⟩ := elements_append reads ends
  have fault : elementsUpTo reader (fuel + 1) before.isEmpty
      (commaSeparated before.isEmpty ((item :: after).map write) ++ ']' :: rest) =
      .error fault := by
    rw [elementsUpTo, List.map_cons, commaSeparated, List.append_assoc, List.append_assoc,
      bind_apply, element?_of_opens _ opens, bind_apply, refused _ next]
    rfl
  rw [readList_cons, List.map_append, commaSeparated_append, List.append_assoc,
    List.isEmpty_map, Bool.true_and, read, fault]
  rfl

/-! ### Objects -/

theorem peek_quote (s : String) (rest : List Char) :
    peek (Json.quote s ++ rest) = .ok (some '"', Json.quote s ++ rest) := by
  rw [quote_append]
  exact peek_cons rfl _

theorem name_quote (s : String) (rest : List Char) :
    fieldName?.name false '"' (Json.quote s ++ rest) = .ok (some s, rest) := by
  rw [quote_append]
  show (do return some (← string false) : Reader (Option String))
    (s.toList.flatMap Json.escape ++ '"' :: rest) = _
  rw [bind_of_ok (string_quote s rest)]
  rfl

theorem fieldName?_string (first : Bool) (s : String) (rest : List Char) :
    fieldName? false first ((if first then [] else [',']) ++ (Json.quote s ++ rest)) =
      .ok (some s, rest) := by
  cases first with
  | true =>
    show fieldName? false true (Json.quote s ++ rest) = _
    rw [fieldName?, bind_of_ok (peek_quote s rest)]
    exact name_quote s rest
  | false =>
    have comma : peek (',' :: (Json.quote s ++ rest)) =
        .ok (some ',', ',' :: (Json.quote s ++ rest)) := peek_cons rfl _
    have passed : advance (',' :: (Json.quote s ++ rest)) = .ok ((), Json.quote s ++ rest) := rfl
    have apart : ',' ≠ '\x7d' := by decide
    show fieldName? false false (',' :: (Json.quote s ++ rest)) = _
    rw [fieldName?, bind_of_ok comma]
    simp only [Bool.false_eq_true, if_false, if_true]
    rw [bind_of_ok passed, bind_of_ok (peek_quote s rest)]
    exact name_quote s rest

/-- The reader of fields takes these in one after the other, from this state to that. -/
inductive Absorbs (field : σ → String → Reader σ) : σ → List (String × Json) → σ → Prop where
  | nil (s : σ) : Absorbs field s [] s
  | cons {s next s' : σ} {name : String} {json : Json} {fields : List (String × Json)}
    (taken : ∀ rest, Ends rest →
      field s name (':' :: (json.compactChars ++ rest)) = .ok (next, rest))
    (others : Absorbs field next fields s') : Absorbs field s ((name, json) :: fields) s'

theorem Absorbs.append {field : σ → String → Reader σ} {s next s' : σ}
    {front behind : List (String × Json)} (first : Absorbs field s front next)
    (others : Absorbs field next behind s') : Absorbs field s (front ++ behind) s' := by
  induction first with
  | nil => exact others
  | cons taken _ ih => exact .cons taken (ih others)

theorem fieldsUpTo_of_absorbs {field : σ → String → Reader σ} {s s' : σ}
    {fields : List (String × Json)} (absorbs : Absorbs field s fields s') (first : Bool)
    (fuel : Nat) (rest : List Char) :
    fieldsUpTo false field (fuel + 1 + fields.length) first s
        (commaSeparated first (fields.map Json.fieldChars) ++ '\x7d' :: rest) =
      .ok (s', rest) := by
  induction absorbs generalizing first with
  | nil s => rfl
  | @cons s next s' name json fields taken others ih =>
    have ends : Ends (commaSeparated false (fields.map Json.fieldChars) ++ '\x7d' :: rest) :=
      ends_commaSeparated _ (ends_cons (.inr (.inr rfl)) rest)
    rw [List.length_cons, ← Nat.add_assoc, fieldsUpTo, List.map_cons, commaSeparated,
      Json.fieldChars, List.append_assoc, List.append_assoc, List.append_assoc,
      bind_of_ok (fieldName?_string first name _)]
    show (field s name >>= fieldsUpTo false field (fuel + 1 + fields.length) false) _ = _
    rw [List.cons_append, bind_of_ok (taken _ ends), ih]

theorem fields_of_absorbs {field : σ → String → Reader σ} {s s' : σ}
    {fields : List (String × Json)} (absorbs : Absorbs field s fields s') (rest : List Char) :
    Reader.fields false field s
        (commaSeparated true (fields.map Json.fieldChars) ++ '\x7d' :: rest) =
      .ok (s', rest) := by
  have filled : ∀ text ∈ fields.map Json.fieldChars, text ≠ [] := by
    intro text member
    obtain ⟨field, -, rfl⟩ := List.mem_map.mp member
    exact List.append_ne_nil_of_left_ne_nil (ne_nil_of_opens (opens_quote field.1)) _
  have length := length_le_commaSeparated filled true
  rw [List.length_map] at length
  have fuel : (commaSeparated true (fields.map Json.fieldChars) ++ '\x7d' :: rest).length + 1 =
      (commaSeparated true (fields.map Json.fieldChars)).length - fields.length + rest.length + 1
        + 1 + fields.length := by
    rw [List.length_append, List.length_cons]
    omega
  rw [Reader.fields, fuel, fieldsUpTo_of_absorbs absorbs]

/-- A reader of objects goes on with what its fields come to. -/
theorem object_append {reader : Reader α} {field : σ → String → Reader σ} {s s' : σ}
    {finish : σ → Reader α} {members : List (String × Json)}
    (brace : ∀ text, reader ('\x7b' :: text) = (fields false field s >>= finish) text)
    (absorbs : Absorbs field s members s') (rest : List Char) :
    reader ((Json.object members).compactChars ++ rest) = finish s' rest := by
  rw [Json.compactChars_object, List.cons_append, List.append_assoc, brace]
  exact bind_of_ok (fields_of_absorbs absorbs rest) finish

theorem opens_object (members : List (String × Json)) :
    Opens (Json.object members).compactChars := by
  rw [Json.compactChars_object]
  exact ⟨'\x7b', rfl, by decide, by decide⟩

theorem reads_object {reader : Reader α} {field : σ → String → Reader σ} {s s' : σ}
    {finish : σ → Reader α} {members : List (String × Json)} {value : α}
    (brace : ∀ text, reader ('\x7b' :: text) = (fields false field s >>= finish) text)
    (absorbs : Absorbs field s members s')
    (made : ∀ rest, finish s' rest = .ok (value, rest)) :
    Reads reader (Json.object members).compactChars value where
  opens := opens_object members
  reads rest _ := (object_append brace absorbs rest).trans (made rest)

theorem colon_cons (rest : List Char) : colon (':' :: rest) = .ok ((), rest) :=
  closing_cons rfl rest

theorem readOnce_of_reads {reader : Reader α} {chars : List Char} {value : α}
    (reads : Reads reader chars value) {rest : List Char} (ends : Ends rest) :
    readOnce reader none (':' :: (chars ++ rest)) = .ok (some value, rest) := by
  show (do colon; return some (← reader) : Reader (Option α)) _ = _
  rw [bind_of_ok (colon_cons _), bind_of_ok (reads.reads rest ends)]
  rfl

/-! ### What is read -/

/-- Whatever text it is read from, the value has this property. -/
def Yields (reader : Reader α) (P : α → Prop) : Prop :=
  ∀ text value rest, reader text = .ok (value, rest) → P value

variable {β : Type} {P : α → Prop} {Q : β → Prop}

theorem yields_pure {value : α} (holds : P value) : Yields (pure value) P := by
  rintro text _ _ ⟨⟩
  exact holds

theorem yields_throw (error : ReadError) : Yields (throw error) P := nofun

theorem Yields.bind {reader : Reader α} {next : α → Reader β} (reads : Yields reader P)
    (goesOn : ∀ value, P value → Yields (next value) Q) : Yields (reader >>= next) Q := by
  intro text result rest read
  rw [bind_apply] at read
  obtain ⟨⟨value, between⟩, first, second⟩ := bind_eq_ok_iff.mp read
  exact goesOn value (reads text value between first) between result rest second

theorem yields_bind {reader : Reader α} {next : α → Reader β}
    (goesOn : ∀ value, Yields (next value) Q) : Yields (reader >>= next) Q := by
  have anything : Yields reader fun _ => True := fun _ _ _ _ => trivial
  exact anything.bind fun value _ => goesOn value

theorem yields_element? {reader : Reader α} (reads : Yields reader P) (first : Bool) :
    Yields (element? first reader) fun value? => ∀ value ∈ value?, P value := by
  refine yields_bind fun more => ?_
  cases more with
  | true =>
    refine reads.bind fun value holds => yields_pure ?_
    rintro _ ⟨⟩
    exact holds
  | false => exact yields_pure nofun

theorem yields_elementsUpTo {reader : Reader α} (reads : Yields reader P) (fuel : Nat)
    (first : Bool) :
    Yields (elementsUpTo reader fuel first) fun values => ∀ value ∈ values, P value := by
  induction fuel generalizing first with
  | zero => exact yields_throw _
  | succ fuel ih =>
    refine (yields_element? reads first).bind fun value? holds => ?_
    cases value? with
    | none => exact yields_bind fun _ => yields_pure nofun
    | some value =>
      refine (ih false).bind fun values others => yields_pure ?_
      exact List.forall_mem_cons.mpr ⟨holds value rfl, others⟩

theorem yields_readList {reader : Reader α} (reads : Yields reader P) :
    Yields (readList reader) fun values => ∀ value ∈ values, P value := by
  refine yields_bind fun start => ?_
  split
  · refine yields_bind fun _ text => ?_
    exact yields_elementsUpTo reads (text.length + 1) true text
  · exact yields_bind fun _ => yields_throw _

end Reader
end InventoryIds
