import InventoryIds.Proofs.CommandLine.Generation
import InventoryIds.Proofs.Compilation
import InventoryIds.Proofs.Exchange

/-!
# Reports on format texts

What a report says of a text is what the other commands do with it: they fail exactly where it
says no, with the error that it shows. The tokens in the report of an accepted text are read back
as its format, and the class of an error tells a limit from a fault of the text
(`check_eq_verdict`).
-/

namespace InventoryIds

/-! ### Fields in order -/

namespace Json

theorem sortedItems_eq_map (items : List Json) : sortedItems items = items.map sorted := by
  induction items with
  | nil => rfl
  | cons item items ih => rw [sortedItems, ih, List.map_cons]

theorem exists_insertField_eq (field : String × Json) (fields : List (String × Json)) :
    ∃ before after, before ++ after = fields ∧
      insertField field fields = before ++ field :: after := by
  induction fields with
  | nil => exact ⟨[], [], rfl, rfl⟩
  | cons other fields ih =>
    rw [insertField]
    split
    · obtain ⟨before, after, rfl, same⟩ := ih
      exact ⟨other :: before, after, rfl, congrArg (other :: ·) same⟩
    · exact ⟨[], other :: fields, rfl, rfl⟩

/-- A field in front goes behind two others that are in order, if its name is the largest. -/
theorem sorted_of_largest {first second last : String} (ordered : ¬second < first)
    (firstBelow : first < last) (secondBelow : second < last) (x y z : Json) :
    sorted (object [(last, z), (first, x), (second, y)]) =
      object [(first, x.sorted), (second, y.sorted), (last, z.sorted)] := by
  simp only [sorted, sortedFields, insertField, ordered, firstBelow, secondBelow, if_true,
    if_false]

end Json

theorem Token.sortedFields_payload (token : Token) :
    Json.sortedFields token.payload = token.payload := by
  match token with
  | literal _ | directive (.random _) | directive .guid | directive (.date _)
  | directive (.sequence .standard) | directive (.sequence (.explicit _)) => rfl

theorem Token.tagged_sorted_toJson (token : Token) : token.Tagged token.toJson.sorted := by
  obtain ⟨before, after, payload, same⟩ :=
    Json.exists_insertField_eq ("type", token.kind.toJson) (Json.sortedFields token.payload)
  refine ⟨before, after, payload.trans token.sortedFields_payload, ?_⟩
  rw [toJson_eq, Json.sorted, Json.sortedFields]
  exact congrArg Json.object same

theorem Format.sorted_toJson (format : Format) :
    format.toJson.sorted = .array (format.tokens.map fun token => token.toJson.sorted) := by
  rw [toJson, Json.sorted, Json.sortedItems_eq_map, List.map_map]
  rfl

namespace CommandLine
variable {text : String} {policy : Policy} {error : FormatError}

/-! ### Classes of errors -/

theorem errorClass_eq_argument_iff :
    errorClass error = "argument" ↔ ∃ kind offset issue, error = .invalidArgument kind offset issue := by
  cases error <;> simp [errorClass, FormatError.isLimitError]

theorem errorClass_eq_limit_iff : errorClass error = "limit" ↔ error.isLimitError := by
  cases error <;> simp [errorClass, FormatError.isLimitError]

theorem errorClass_eq_syntax_iff :
    errorClass error = "syntax" ↔
      (∃ offset, error = .malformedDirective offset) ∨
        ∃ head offset, error = .unknownDirective head offset := by
  cases error <;> simp [errorClass, FormatError.isLimitError]

/-! ### Reports -/

theorem check_of_ok {format : Format} (compiled : Format.compile text policy = .ok format) :
    check text policy = .accepted format := by
  rw [check, compiled]

theorem check_of_error (refused : Format.compile text policy = .error error) :
    check text policy = .rejected error := by
  rw [check, refused]

theorem success_check_iff :
    (check text policy).success ↔ ∃ format, Format.compile text policy = .ok format := by
  cases compiled : Format.compile text policy with
  | ok format => simp [check_of_ok compiled, Report.success]
  | error error => simp [check_of_error compiled, Report.success]

theorem sorted_toJson_accepted (format : Format) :
    (Report.accepted format).toJson.sorted = .object [("canonical", .string format.canonical),
      ("tokens", .array (format.tokens.map fun token => token.toJson.sorted)),
      ("valid", .bool true)] := by
  rw [Report.toJson, Json.sorted_of_largest (by decide) (by decide) (by decide),
    Format.sorted_toJson]
  rfl

theorem sorted_toJson_rejected (error : FormatError) :
    (Report.rejected error).toJson.sorted = .object [("class", .string (errorClass error)),
      ("error", .string error.message), ("valid", .bool false)] := by
  rw [Report.toJson, Json.sorted_of_largest (by decide) (by decide) (by decide)]
  rfl

theorem preview_eq {σ : Type} [CounterStore σ] (mint : Mint σ) (text : String) :
    preview mint text = (mint.compile text >>= fun format => .ok
      { output := (mint.previewFormat format).1.toJson.pretty, success := true }) := by
  unfold preview Mint.preview
  cases mint.compile text <;> rfl

theorem run_preview_eq (policy : Policy) (text : String) (clock : Feed Instant)
    (draws : Feed Draw) :
    run ⟨policy, .preview text⟩ clock draws =
      (Format.compile text policy >>= fun format => .ok
        { output := ((freshMint policy clock draws).previewFormat format).1.toJson.pretty
          success := true }) :=
  preview_eq (freshMint policy clock draws) text

end CommandLine
end InventoryIds
