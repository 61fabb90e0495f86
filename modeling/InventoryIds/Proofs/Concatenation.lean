import InventoryIds.Proofs.Refusals

/-!
# Texts behind one another

A directive is read alike wherever it stands, but for the byte at which its faults are reported
(`readPieces_shift`). So behind a front that is read, a text is read or refused as it is on its
own, and a run of characters that was cut is joined again (`parse_append`).
-/

namespace InventoryIds

/-- The same fault, so many bytes further on. -/
def FormatError.shift (bytes : Nat) : FormatError → FormatError
  | malformedDirective offset => malformedDirective (offset + bytes)
  | unknownDirective head offset => unknownDirective head (offset + bytes)
  | invalidArgument kind offset issue => invalidArgument kind (offset + bytes) issue
  | tooManyOfKind kind count limit => tooManyOfKind kind count limit
  | tooManyTokens count limit => tooManyTokens count limit

/-! ### Readers further on -/

namespace Directive

theorem complete_shift (kind : Kind) (offset bytes : Nat)
    (outcome : Except ArgumentIssue (Directive × List String)) :
    complete kind (offset + bytes) outcome =
      (complete kind offset outcome).mapError (.shift bytes) := by
  rcases outcome with issue | ⟨directive, _ | ⟨extra, rest⟩⟩ <;> rfl

theorem ofFields_shift (offset bytes : Nat) (head : String) (arguments : List String) :
    ofFields (offset + bytes) head arguments =
      (ofFields offset head arguments).mapError (.shift bytes) := by
  unfold ofFields
  cases Kind.ofHead? head with
  | none => rfl
  | some kind =>
    cases kind with
    | text => rfl
    | _ => exact complete_shift _ _ _ _

theorem ofBody_shift (offset bytes : Nat) (body : List Char) :
    ofBody (offset + bytes) body = (ofBody offset body).mapError (.shift bytes) := by
  unfold ofBody
  split
  · rfl
  · exact ofFields_shift _ _ _ _

end Directive

namespace Format

theorem readPieces_shift (bytes : Nat) (opened : Option OpenDirective) (position : Nat)
    (cs : List Char) :
    readPieces (opened.map fun d => ⟨d.offset + bytes, d.body⟩) (position + bytes) cs =
      (readPieces opened position cs).mapError (.shift bytes) := by
  -- Along the recursion of the reader; a directive that is open has started further on, too.
  fun_induction readPieces opened position cs with
  | case1 position => rfl
  | case2 position opened => rfl
  | case3 position cs ih =>
    rw [Nat.add_right_comm] at ih
    exact (if_pos rfl).trans ih
  | case4 position c cs plain ih =>
    rw [Nat.add_right_comm, Option.map_none] at ih
    rw [Option.map_none, readPieces_char plain, ih, mapError_bind]
    rfl
  | case5 opened position cs => rfl
  | case6 opened position cs _ ih =>
    rw [Nat.add_right_comm, Option.map_none] at ih
    rw [Option.map_some, readPieces, if_neg (by decide), if_pos rfl, Directive.ofBody_shift,
      mapError_bind]
    refine congrArg (_ >>= ·) (funext fun directive => ?_)
    rw [ih, mapError_bind]
    rfl
  | case7 opened position c cs opening closing ih =>
    rw [Nat.add_right_comm] at ih
    rw [Option.map_some, readPieces, if_neg opening, if_neg closing]
    exact ih

/-! ### Fronts that are read -/

theorem pieces_append (format more : Format) :
    pieces ⟨format.tokens ++ more.tokens⟩ = format.pieces ++ more.pieces := by
  simp [pieces]

/-- Behind a front that is read, a text is read into the pieces behind those of the front. -/
theorem parse_append_eq {front : String} {format : Format} (read : parse front = .ok format)
    (behind : String) :
    parse (front ++ behind) =
      ((parse behind).mapError (.shift front.utf8ByteSize) >>= fun more =>
        .ok (normalized ⟨format.tokens ++ more.tokens⟩)) := by
  obtain ⟨same, writable⟩ := cut_iff.mp (parse_eq_ok_iff_cut.mp read).1
  have offset : String.utf8Len (format.pieces.flatMap Piece.chars) = front.utf8ByteSize := by
    rw [← same, String.utf8Len_toList]
  have further := readPieces_shift front.utf8ByteSize none 0 behind.toList
  rw [Option.map_none, Nat.zero_add] at further
  rw [parse, String.toList_append, same, readPieces_append writable, offset, Nat.zero_add, further,
    parse, mapError_bind]
  cases readPieces none 0 behind.toList with
  | error e => rfl
  | ok pieces =>
    have joined := pieces_append format (ofPieces pieces)
    rw [pieces_ofPieces] at joined
    show Except.ok (ofPieces (format.pieces ++ pieces)) = .ok (ofPieces _)
    rw [joined]

/-- Behind a front that is read, a text adds the tokens that it is read as, and the whole is
normal again; or it is refused with the same fault, at a byte that is further on by the bytes of
the front. -/
theorem parse_append {front : String} {format : Format} (read : parse front = .ok format)
    (behind : String) :
    (∀ more, parse behind = .ok more →
      parse (front ++ behind) = .ok (normalized ⟨format.tokens ++ more.tokens⟩)) ∧
    ∀ e, parse behind = .error e →
      e.offset?.isSome ∧ parse (front ++ behind) = .error (e.shift front.utf8ByteSize) := by
  have whole := parse_append_eq read behind
  constructor
  · intro more readMore
    rw [whole, readMore]
    rfl
  · intro e refused
    refine ⟨isSome_offset?_of_parse_error refused, ?_⟩
    rw [whole, refused]
    rfl

theorem parse_append_cut_literal :
    parse ("\x7bSEQ\x7dü" ++ "b\x7dc\x7bGUID\x7d") =
        .ok ⟨[.directive (.sequence .standard), .literal "üb\x7dc", .directive .guid]⟩ ∧
      parse ("\x7bSEQ\x7dü" ++ "é\x7bRANDOM:7\x7d") =
        .error (.invalidArgument .random 9 (.unsupportedBits 7)) := by
  have front : parse "\x7bSEQ\x7dü" =
      .ok ⟨[.directive (.sequence .standard), .literal "ü"]⟩ := rfl
  exact ⟨(parse_append front _).1 ⟨[.literal "b\x7dc", .directive .guid]⟩ rfl,
    ((parse_append front _).2 (.invalidArgument .random 2 (.unsupportedBits 7)) rfl).2⟩

end Format
end InventoryIds
