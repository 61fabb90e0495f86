import InventoryIds.Exchange.Policies
import InventoryIds.Exchange.Previews
import InventoryIds.Exchange.Tokens
import InventoryIds.Proofs.RoundTrip
import InventoryIds.Proofs.Json.Collections

/-!
# Exchanged data

Policies, previews and formats are read back from their JSON texts, except for formats with a
width out of range, which are refused. Whatever text a format is read from, its tokens hold
values that are allowed (`Format.read_compact`).
-/

namespace InventoryIds
open Reader (Absorbs Ends Opens Reads Yields bind_of_ok colon_cons readAll readAll_of_reads
  readOnce_of_reads reads_object reads_quoted reads_readList reads_value reads_word64 yields_bind
  yields_pure yields_readList yields_throw)

/-! ### Policies and previews -/

namespace Policy

theorem read_brace (text : List Char) :
    Policy.read ('\x7b' :: text) =
      (Reader.fields false readField {} >>= fun parts => return parts.policy) text := rfl

theorem reads_read (policy : Policy) : Reads Policy.read policy.toJson.compactChars policy := by
  have word (n : UInt64) {rest : List Char} (ends : Ends rest) :=
    readOnce_of_reads (reads_word64 n) ends
  have perKind : ∀ rest, Ends rest →
      readField {} "max_per_kind" (':' :: ((Json.word policy.maxPerKind).compactChars ++ rest)) =
        .ok (⟨some policy.maxPerKind, none, none⟩, rest) := by
    intro rest ends
    rw [readField, if_pos rfl]
    exact bind_of_ok (word _ ends) _
  have tokens : ∀ rest, Ends rest →
      readField ⟨some policy.maxPerKind, none, none⟩ "max_tokens"
        (':' :: ((Json.word policy.maxTokens).compactChars ++ rest)) =
        .ok (⟨some policy.maxPerKind, some policy.maxTokens, none⟩, rest) := by
    intro rest ends
    rw [readField, if_neg (by decide), if_pos rfl]
    exact bind_of_ok (word _ ends) _
  have examples : ∀ rest, Ends rest →
      readField ⟨some policy.maxPerKind, some policy.maxTokens, none⟩ "preview_examples"
        (':' :: ((Json.word policy.previewExamples).compactChars ++ rest)) =
        .ok (⟨some policy.maxPerKind, some policy.maxTokens, some policy.previewExamples⟩,
          rest) := by
    intro rest ends
    rw [readField, if_neg (by decide), if_neg (by decide), if_pos rfl]
    exact bind_of_ok (word _ ends) _
  exact reads_object read_brace
    (.cons perKind (.cons tokens (.cons examples (.nil _)))) fun _ => rfl

end Policy

namespace Preview

theorem read_brace (text : List Char) :
    Preview.read ('\x7b' :: text) =
      (Reader.fields false readField {} >>= Parts.complete) text := rfl

theorem reads_read (preview : Preview) :
    Reads Preview.read preview.toJson.compactChars preview := by
  have list : Reads (Reader.readList Reader.quoted)
      (Json.array (preview.examples.map .string)).compactChars preview.examples := by
    rw [Json.compactChars_array, List.map_map]
    exact reads_readList fun shown _ => reads_quoted shown
  have first : ∀ rest, Ends rest →
      readField {} "preview" (':' :: ((Json.string preview.preview).compactChars ++ rest)) =
        .ok (⟨some preview.preview, none⟩, rest) := by
    intro rest ends
    rw [readField, if_pos rfl]
    exact bind_of_ok (readOnce_of_reads (reads_quoted _) ends) _
  have examples : ∀ rest, Ends rest →
      readField ⟨some preview.preview, none⟩ "examples"
        (':' :: ((Json.array (preview.examples.map .string)).compactChars ++ rest)) =
        .ok (⟨some preview.preview, some preview.examples⟩, rest) := by
    intro rest ends
    rw [readField, if_neg (by decide), if_pos rfl]
    exact bind_of_ok (readOnce_of_reads list ends) _
  exact reads_object read_brace (.cons first (.cons examples (.nil _))) fun _ => rfl

end Preview

/-! ### Tokens -/

namespace Kind

theorem reads_readTag (kind : Kind) : Reads readTag kind.toJson.compactChars kind :=
  (reads_quoted kind.tag).andThen fun rest => by rw [acceptTag, ofTag?_tag]; rfl

end Kind

namespace Token

/-- The payload of a token, as the fields behind its tag. -/
def payload : Token → List (String × Json)
  | literal text => [("literal", .string text)]
  | directive (.random code) => [("bits", code.toJson)]
  | directive .guid => []
  | directive (.date pattern) => [("pattern", pattern.toJson)]
  | directive (.sequence width) => [("width", width.toJson)]

theorem toJson_eq (token : Token) :
    token.toJson = .object (("type", token.kind.toJson) :: token.payload) := by
  match token with
  | literal _ | directive (.random _) | directive .guid | directive (.date _)
  | directive (.sequence _) => rfl

theorem plain_of_mem_payload {token : Token} {field : String × Json}
    (member : field ∈ token.payload) : field.1 ≠ "type" ∧ field.2.Plain := by
  match token with
  | literal text =>
    obtain rfl := List.mem_singleton.mp member
    exact ⟨by simp, .string text⟩
  | directive (.random code) =>
    obtain rfl := List.mem_singleton.mp member
    exact ⟨by simp, .word _⟩
  | directive .guid => cases member
  | directive (.date pattern) =>
    obtain rfl := List.mem_singleton.mp member
    exact ⟨by simp, .string _⟩
  | directive (.sequence width) =>
    obtain rfl := List.mem_singleton.mp member
    cases width with
    | standard => exact ⟨by simp, .null⟩
    | explicit digits => exact ⟨by simp, .word _⟩

theorem readField_type (depth : Nat) (kind : Kind) (fields : List (String × Json))
    {rest : List Char} (ends : Ends rest) :
    readField depth { fields } "type" (':' :: (kind.toJson.compactChars ++ rest)) =
      .ok (⟨some kind, fields⟩, rest) := by
  rw [readField, if_pos rfl]
  show (do Reader.colon; return ⟨some (← Kind.readTag), fields⟩ : Reader Parts) _ = _
  rw [bind_of_ok (colon_cons _),
    bind_of_ok ((Kind.reads_readTag kind).reads rest ends)]
  rfl

theorem readField_plain (depth : Nat) (parts : Parts) {field : String × Json}
    (other : field.1 ≠ "type") (plain : field.2.Plain) {rest : List Char} (ends : Ends rest) :
    readField depth parts field.1 (':' :: (field.2.compactChars ++ rest)) =
      .ok ({ parts with fields := field :: parts.fields }, rest) := by
  rw [readField, if_neg other, bind_of_ok (colon_cons _),
    bind_of_ok ((reads_value plain depth).reads rest ends)]
  rfl

/-- Fields that are no tags are put in front of one another as they come. -/
theorem absorbs_plain (depth : Nat) {members : List (String × Json)}
    (plain : ∀ field ∈ members, field.1 ≠ "type" ∧ field.2.Plain) (parts : Parts) :
    Absorbs (readField depth) parts members
      { parts with fields := members.reverse ++ parts.fields } := by
  induction members generalizing parts with
  | nil => exact .nil parts
  | cons field members ih =>
    obtain ⟨⟨other, value⟩, tail⟩ := List.forall_mem_cons.mp plain
    have others := ih tail { parts with fields := field :: parts.fields }
    rw [List.reverse_cons, List.append_assoc]
    exact .cons (fun rest ends => readField_plain depth parts other value ends) others

/-- What a token is made of once all of its fields have been read. -/
def Parts.complete (parts : Parts) : Reader Token :=
  match parts.kind with
  | some kind => found (ofFields? kind parts.fields.reverse)
  | none => throw .mismatched

theorem readWithin_brace (depth : Nat) (text : List Char) :
    readWithin depth ('\x7b' :: text) =
      (Reader.fields false (readField depth) {} >>= Parts.complete) text := rfl

/-- A token as data, with its tag at some place among the fields of its payload. -/
def Tagged (token : Token) (json : Json) : Prop :=
  ∃ before after, before ++ after = token.payload ∧
    json = .object (before ++ ("type", token.kind.toJson) :: after)

theorem tagged_toJson (token : Token) : token.Tagged token.toJson :=
  ⟨[], token.payload, rfl, token.toJson_eq⟩

theorem absorbs_tagged (depth : Nat) (kind : Kind) {before after : List (String × Json)}
    (plain : ∀ field ∈ before ++ after, field.1 ≠ "type" ∧ field.2.Plain) :
    Absorbs (readField depth) {} (before ++ ("type", kind.toJson) :: after)
      ⟨some kind, (before ++ after).reverse⟩ := by
  obtain ⟨front, behind⟩ := List.forall_mem_append.mp plain
  have first := absorbs_plain depth front {}
  have last := absorbs_plain depth behind ⟨some kind, before.reverse⟩
  rw [List.append_nil] at first
  rw [List.reverse_append]
  exact first.append (.cons (fun _ ends => readField_type depth kind _ ends) last)

/-- Reading the text of a token comes down to its kind and its payload. -/
theorem readWithin_append (depth : Nat) {token : Token} {json : Json} (tagged : token.Tagged json)
    (rest : List Char) :
    readWithin depth (json.compactChars ++ rest) =
      found (ofFields? token.kind token.payload) rest := by
  obtain ⟨before, after, payload, rfl⟩ := tagged
  have plain : ∀ field ∈ before ++ after, field.1 ≠ "type" ∧ field.2.Plain := by
    intro field member
    rw [payload] at member
    exact plain_of_mem_payload member
  have read := Reader.object_append (readWithin_brace depth)
    (absorbs_tagged depth token.kind plain) rest
  rw [read, payload, Parts.complete, List.reverse_reverse]

theorem ofFields?_payload_of_inRange {token : Token} (range : token.InRange) :
    ofFields? token.kind token.payload = some token := by
  match token with
  | literal text => rfl
  | directive (.random code) => cases code <;> rfl
  | directive .guid => rfl
  | directive (.date pattern) => cases pattern <;> rfl
  | directive (.sequence .standard) => rfl
  | directive (.sequence (.explicit digits)) =>
    have accepted : OrdinalWidth.ofNat digits.toNat = .ok (.explicit digits) :=
      OrdinalWidth.ofNat_eq_ok_iff.mpr ⟨rfl, range⟩
    show (OrdinalWidth.ofNat digits.toUInt64.toNat).toOption.map _ = _
    rw [UInt8.toNat_toUInt64, accepted]
    rfl

theorem ofFields?_payload_of_not_inRange {token : Token} (out : ¬token.InRange) :
    ofFields? token.kind token.payload = none := by
  match token with
  | literal _ | directive (.random _) | directive .guid | directive (.date _)
  | directive (.sequence .standard) => exact absurd trivial out
  | directive (.sequence (.explicit digits)) =>
    show (OrdinalWidth.ofNat digits.toUInt64.toNat).toOption.map _ = _
    rw [UInt8.toNat_toUInt64, OrdinalWidth.ofNat_of_not_inRange out]
    rfl

theorem opens_of_tagged {token : Token} {json : Json} (tagged : token.Tagged json) :
    Opens json.compactChars := by
  obtain ⟨before, after, -, rfl⟩ := tagged
  exact Reader.opens_object _

theorem reads_readWithin (depth : Nat) {token : Token} {json : Json} (tagged : token.Tagged json)
    (range : token.InRange) : Reads (readWithin depth) json.compactChars token where
  opens := opens_of_tagged tagged
  reads rest _ := by
    rw [readWithin_append depth tagged, ofFields?_payload_of_inRange range]
    rfl

theorem readWithin_of_not_inRange (depth : Nat) {token : Token} (out : ¬token.InRange)
    (rest : List Char) :
    readWithin depth (token.toJson.compactChars ++ rest) = .error .mismatched := by
  rw [readWithin_append depth token.tagged_toJson, ofFields?_payload_of_not_inRange out]
  rfl

/-! ### Tokens that are read -/

/-- A width, a number of bits or a date pattern of the token is one that is allowed. -/
structure WellFormed (token : Token) : Prop where
  width : ∀ digits, token = directive (.sequence (.explicit digits)) →
    1 ≤ digits.toNat ∧ digits.toNat ≤ 20
  bits : ∀ code, token = directive (.random code) → code.bits ∈ [6, 9, 20, 32]
  pattern : ∀ pattern, token = directive (.date pattern) →
    pattern.spelling ∈ ["yyyy", "yy", "yyyyMM", "yyyy-MM", "yyyyMMdd", "yyyy-MM-dd", "yyMMdd",
      "ddMMyyyy", "MMddyyyy", "dd.MM.yyyy", "yyyyMMddHHmm", "HHmmss"]

theorem wellFormed_of_inRange {token : Token} (range : token.InRange) : token.WellFormed where
  width := by
    rintro digits rfl
    exact range
  bits := by
    rintro code -
    cases code <;> decide
  pattern := by
    rintro pattern -
    cases pattern <;> decide

theorem inRange_of_ofPayload? {kind : Kind} {json : Json} {token : Token}
    (made : ofPayload? kind json = some token) : token.InRange := by
  cases kind with
  | text =>
    cases json with
    | string s => cases made; trivial
    | _ => cases made
  | guid => cases made
  | random =>
    obtain ⟨code, -, rfl⟩ := Option.map_eq_some_iff.mp made
    trivial
  | date =>
    obtain ⟨pattern, -, rfl⟩ := Option.map_eq_some_iff.mp made
    trivial
  | sequence =>
    obtain ⟨width, read, rfl⟩ := Option.map_eq_some_iff.mp made
    unfold OrdinalWidth.ofJson? at read
    split at read
    · cases read; trivial
    · have accepted := toOption_eq_some_iff.mp read
      exact (OrdinalWidth.ofNat_eq_ok_iff.mp accepted).2
    · cases read

theorem inRange_of_ofFields? {kind : Kind} {members : List (String × Json)} {token : Token}
    (made : ofFields? kind members = some token) : token.InRange := by
  unfold ofFields? at made
  split at made
  · cases made; trivial
  · split at made
    · exact inRange_of_ofPayload? made
    · split at made
      · rename_i sequence
        subst sequence
        cases made
        trivial
      · cases made
    · cases made

theorem inRange_of_ofList? {kind : Kind} {items : List Json} {token : Token}
    (made : ofList? kind items = some token) : token.InRange := by
  unfold ofList? at made
  split at made
  · split at made
    · cases made; trivial
    · cases made
  · exact inRange_of_ofPayload? made
  · cases made

theorem yields_found {token? : Option Token} (range : ∀ token, token? = some token → token.InRange) :
    Yields (found token?) InRange := by
  cases token? with
  | some token => exact yields_pure (range token rfl)
  | none => exact yields_throw _

theorem yields_readWithin (depth : Nat) : Yields (readWithin depth) InRange := by
  -- Both shapes of a token end in `found`, whose token was made of a payload that was checked.
  refine yields_bind fun start => ?_
  split
  · refine yields_bind fun _ => yields_bind fun parts => ?_
    split
    · exact yields_found fun _ made => inRange_of_ofFields? made
    · exact yields_throw _
  · refine yields_bind fun _ => yields_bind fun kind? => ?_
    split
    · exact yields_bind fun _ => yields_found fun _ made => inRange_of_ofList? made
    · exact yields_throw _
  · exact yields_bind fun _ => yields_throw _

end Token

/-! ### Formats -/

namespace Format

theorem compactChars_array (write : Token → Json) (tokens : List Token) :
    (Json.array (tokens.map write)).compactChars =
      '[' :: (commaSeparated true (tokens.map fun token => (write token).compactChars) ++
        [']']) := by
  rw [Json.compactChars_array, List.map_map]
  rfl

/-- A format is read back from its tokens, wherever the tags stand. -/
theorem read_compact_of_tagged {format : Format} {write : Token → Json}
    (tagged : ∀ token : Token, token.Tagged (write token)) (range : format.InRange) :
    readAll Format.read (Json.array (format.tokens.map write)).compact = .ok format := by
  have tokens : ∀ token ∈ format.tokens, Reads (Token.readWithin (Reader.maxDepth - 2))
      (write token).compactChars token := fun token member =>
    Token.reads_readWithin _ (tagged token) (range token member)
  have list := reads_readList tokens
  rw [← compactChars_array] at list
  exact readAll_of_reads (list.andThen fun _ => rfl)

theorem read_compact_of_inRange {format : Format} (range : format.InRange) :
    readAll Format.read format.toJson.compact = .ok format :=
  read_compact_of_tagged Token.tagged_toJson range

theorem read_compact_of_not_inRange {format : Format} (out : ¬format.InRange) :
    readAll Format.read format.toJson.compact = .error .mismatched := by
  obtain ⟨before, token, after, tokens, narrow, wide⟩ := exists_first_not out
  have reads : ∀ token ∈ before, Reads (Token.readWithin (Reader.maxDepth - 2))
      token.toJson.compactChars token := fun token member =>
    Token.reads_readWithin _ token.tagged_toJson (narrow token member)
  have refused := Reader.readList_of_fault reads (Token.opens_of_tagged token.tagged_toJson)
    (fun rest _ => Token.readWithin_of_not_inRange _ wide rest) after []
  rw [← tokens, ← compactChars_array] at refused
  rw [toJson, readAll, Json.compact, String.toList_ofList, Reader.bind_apply, Format.read,
    Reader.bind_apply, refused]
  rfl

theorem inRange_of_readAll {text : String} {format : Format}
    (read : readAll Format.read text = .ok format) : format.InRange := by
  have range : Yields (do let format ← Format.read; Reader.finish; return format) InRange := by
    refine Yields.bind (P := InRange) ?_ fun _ range => yields_bind fun _ =>
      yields_pure range
    exact (yields_readList (Token.yields_readWithin _)).bind fun _ range =>
      yields_pure range
  obtain ⟨⟨value, rest⟩, whole, same⟩ := bind_eq_ok_iff.mp read
  cases same
  exact range _ _ _ whole

/-- Formats, previews and policies are read back from their JSON texts; a format with a width out
of range is written, but not read. Every format that is read from any text is well-formed, and is
read back in its turn. -/
theorem read_compact :
    (∀ format : Format, format.InRange →
      readAll Format.read format.toJson.compact = .ok format) ∧
    (∀ format : Format, ¬format.InRange →
      readAll Format.read format.toJson.compact = .error .mismatched) ∧
    (∀ preview : Preview, readAll Preview.read preview.toJson.compact = .ok preview) ∧
    (∀ policy : Policy, readAll Policy.read policy.toJson.compact = .ok policy) ∧
    ∀ (text : String) (format : Format), readAll Format.read text = .ok format →
      (∀ token ∈ format.tokens, token.WellFormed) ∧
      readAll Format.read format.toJson.compact = .ok format := by
  refine ⟨fun _ range => read_compact_of_inRange range,
    fun _ out => read_compact_of_not_inRange out,
    fun preview => readAll_of_reads preview.reads_read,
    fun policy => readAll_of_reads policy.reads_read, fun text format read => ?_⟩
  have range := inRange_of_readAll read
  exact ⟨fun token member => Token.wellFormed_of_inRange (range token member),
    read_compact_of_inRange range⟩

theorem read_compact_two_formats :
    ∃ (format wide : Format) (preview : Preview) (policy : Policy) (text : String),
      format.InRange ∧
      format.toJson.compact =
        "[\x7b\"type\":\"TEXT\",\"literal\":\"\\\"\\\\\\n\\u0001\x7b\"\x7d," ++
          "\x7b\"type\":\"SEQUENCE\",\"width\":20\x7d]" ∧
      readAll Format.read format.toJson.compact = .ok format ∧
      ¬wide.InRange ∧
      wide.toJson.compact =
        "[\x7b\"type\":\"GUID\"\x7d,\x7b\"type\":\"SEQUENCE\",\"width\":21\x7d]" ∧
      readAll Format.read wide.toJson.compact = .error .mismatched ∧
      readAll Preview.read preview.toJson.compact = .ok preview ∧
      readAll Policy.read policy.toJson.compact = .ok policy ∧
      text = " [[\"GUID\"], \x7b\"bits\":20,\"note\":[0],\"type\":\"RANDOM\"\x7d]" ∧
      readAll Format.read text = .ok ⟨[.directive .guid, .directive (.random .twenty)]⟩ ∧
      ∀ token ∈ [.directive .guid, .directive (.random .twenty)], Token.WellFormed token := by
  let format : Format :=
    ⟨[.literal "\"\\\n\x01\x7b", .directive (.sequence (.explicit 20))]⟩
  let wide : Format := ⟨[.directive .guid, .directive (.sequence (.explicit 21))]⟩
  let text := " [[\"GUID\"], \x7b\"bits\":20,\"note\":[0],\"type\":\"RANDOM\"\x7d]"
  obtain ⟨reads, refuses, previews, policies, converse⟩ := read_compact
  have range : format.InRange := by decide
  have out : ¬wide.InRange := by decide
  have read : readAll Format.read text =
      .ok ⟨[.directive .guid, .directive (.random .twenty)]⟩ :=
    toOption_eq_some_iff.mp (by decide +kernel)
  exact ⟨format, wide, ⟨"a\t", ["b", ""]⟩, ⟨1, 2, 18446744073709551615⟩, text, range, by decide,
    reads format range, out, by decide, refuses wide out, previews _, policies _, rfl, read,
    (converse text _ read).1⟩

end Format
end InventoryIds
