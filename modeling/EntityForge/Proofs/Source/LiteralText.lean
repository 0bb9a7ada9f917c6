import EntityForge.Source.Literal
import EntityForge.Source.Token

/-!
What a text literal denotes. The characters inside are followed one by one, as they are when the end
of the literal is looked for; a complete escape stands for a character. The literal of a text denotes
that text, whatever had to be escaped in it.
-/

namespace EntityForge.Literal

/-- What one more character inside of a text literal stands for. -/
def Progress.denoted : Progress → Char → List Char
  | plain, c => if c = '\\' ∨ c = '\r' then [] else [c]
  | carriage, c => [c]
  | escape, 'n' => ['\n']
  | escape, 'r' => ['\r']
  | escape, 't' => ['\t']
  | escape, '0' => ['\x00']
  | escape, c => if c = '\\' ∨ c = '\'' ∨ c = '"' then [c] else []
  | highDigit, _ => []
  | lowDigit high, c => [Char.ofNat (16 * high + (Text.hexValue? c).getD 0)]
  | scalarOpening, _ => []
  | scalar _ value, c => if c = '\x7d' then [Char.ofNat value] else []
  | continuation, c => if c = ' ' ∨ c = '\t' ∨ c = '\n' ∨ c = '\\' ∨ c = '\r' then [] else [c]
  | continuationCarriage, _ => []

/-- The characters that the rest of a text literal stands for, up to the quotation mark at its
end. -/
def textFrom? : Progress → List Char → Option (List Char)
  | .plain, ['"'] => some []
  | .continuation, ['"'] => some []
  | .plain, '"' :: _ => none
  | .continuation, '"' :: _ => none
  | progress, c :: rest =>
    (progress.next? .text c).bind fun next => (textFrom? next rest).map (progress.denoted c ++ ·)
  | _, [] => none

/-- The text that a text literal denotes. It has no suffix. -/
def text? (literal : String) : Option String :=
  match literal.toList with
  | '"' :: rest => (textFrom? .plain rest).map String.ofList
  | _ => none

/-- A character that does not end the literal. -/
theorem textFrom?_cons {progress next : Progress} {c : Char}
    (hinside : c = '"' → progress ≠ .plain ∧ progress ≠ .continuation)
    (hnext : progress.next? .text c = some next) (rest : List Char) :
    textFrom? progress (c :: rest) = (textFrom? next rest).map (progress.denoted c ++ ·) := by
  have hplain : progress = .plain → c ≠ '"' := fun h hquote => (hinside hquote).1 h
  have hcontinuation : progress = .continuation → c ≠ '"' := fun h hquote => (hinside hquote).2 h
  -- None of the clauses for a quotation mark applies.
  rw [textFrom?, hnext, Option.bind_some]
  · exact fun h hquote _ => hplain h hquote
  · exact fun h hquote _ => hcontinuation h hquote
  · exact hplain
  · exact hcontinuation

/-- A character in the middle of an escape. -/
theorem textFrom?_within {progress next : Progress} {c : Char} (hquote : c ≠ '"')
    (hnext : progress.next? .text c = some next) (hdenoted : progress.denoted c = [])
    (rest : List Char) : textFrom? progress (c :: rest) = textFrom? next rest := by
  rw [textFrom?_cons (absurd · hquote) hnext, hdenoted]
  exact Option.map_id_apply

/-- A character that is neither a quotation mark nor the beginning of an escape or of a line end
stands for itself. -/
theorem textFrom?_itself {c : Char} (hquote : c ≠ '"') (hescape : c ≠ '\\') (hcarriage : c ≠ '\r')
    (rest : List Char) :
    textFrom? .plain (c :: rest) = (textFrom? .plain rest).map (c :: ·) := by
  have hnext : Progress.plain.next? .text c = some .plain := by
    simp [Progress.next?, Progress.onPlain?, Content.admits, hescape, hcarriage]
  have hdenoted : Progress.plain.denoted c = [c] := if_neg (by simp [hescape, hcarriage])
  rw [textFrom?_cons (absurd · hquote) hnext, hdenoted]
  rfl

theorem textFrom?_backslash (rest : List Char) :
    textFrom? .plain ('\\' :: rest) = textFrom? .escape rest :=
  textFrom?_within (by decide) rfl rfl rest

/-- An escape of one letter. -/
theorem textFrom?_letter {letter c : Char} (hplain : Progress.onEscape? .text letter = some .plain)
    (hdenoted : Progress.escape.denoted letter = [c]) (rest : List Char) :
    textFrom? .plain ('\\' :: letter :: rest) = (textFrom? .plain rest).map (c :: ·) := by
  have hinside : Progress.escape ≠ .plain ∧ Progress.escape ≠ .continuation := by simp
  rw [textFrom?_backslash, textFrom?_cons (fun _ => hinside) hplain, hdenoted]
  rfl

/-! Escapes by code points. -/

theorem hexValue?_digitChar {d : Nat} (h : d < 16) : Text.hexValue? d.digitChar = some d := by
  revert d
  decide

theorem digitChar_ne {d : Nat} (h : d < 16) : d.digitChar ≠ '"' ∧ d.digitChar ≠ '\x7d' := by
  revert d
  decide

theorem textFrom?_digit {d digits value : Nat} (h : d < 16) (hdigits : digits < 6)
    (rest : List Char) :
    textFrom? (.scalar digits value) (d.digitChar :: rest) =
      textFrom? (.scalar (digits + 1) (16 * value + d)) rest := by
  obtain ⟨hquote, hbrace⟩ := digitChar_ne h
  have hnext : (Progress.scalar digits value).next? .text d.digitChar =
      some (.scalar (digits + 1) (16 * value + d)) := by
    simp only [Progress.next?, Progress.onScalar?, hexValue?_digitChar h, if_pos hdigits]
  exact textFrom?_within hquote hnext (if_neg hbrace) rest

/-- The digits of a number lead to the number. -/
theorem textFrom?_hexNumber {n : Nat} (h : (Text.hexNumber n).length ≤ 6) (rest : List Char) :
    textFrom? (.scalar 0 0) (Text.hexNumber n ++ rest) =
      textFrom? (.scalar (Text.hexNumber n).length n) rest := by
  induction n using Nat.strongRecOn generalizing rest with
  | ind n ih =>
    unfold Text.hexNumber at h ih ⊢
    by_cases hsmall : n < 16
    · rw [Nat.toDigits_of_lt_base hsmall]
      have hdigit : textFrom? (.scalar 0 0) (n.digitChar :: rest) =
          textFrom? (.scalar (0 + 1) (16 * 0 + n)) rest := textFrom?_digit hsmall (by decide) rest
      rw [Nat.zero_add, Nat.mul_zero, Nat.zero_add] at hdigit
      exact hdigit
    · have hdigits := Nat.toDigits_eq_if (b := 16) (n := n) (by decide)
      rw [if_neg hsmall] at hdigits
      rw [hdigits] at h ⊢
      rw [List.length_append, List.length_singleton] at h ⊢
      have hlast : n % 16 < 16 := Nat.mod_lt n (by decide)
      rw [List.append_assoc, ih (n / 16) (by omega) (by omega), List.singleton_append,
        textFrom?_digit hlast (by omega), Nat.div_add_mod]

/-- No code point has more than six digits. -/
theorem hexNumber_length (c : Char) : (Text.hexNumber c.toNat).length ≤ 6 := by
  have hvalid : c.toNat < 0x110000 := by
    have hscalar := c.valid
    simp only [UInt32.isValidChar, Nat.isValidChar] at hscalar
    simp only [Char.toNat]
    omega
  exact (Nat.length_toDigits_le_iff (by decide) (by decide)).mpr (by omega)

/-- The brace behind the digits of a code point. -/
theorem textFrom?_closing {c : Char} {digits : Nat} (hdigits : digits ≠ 0) (rest : List Char) :
    textFrom? (.scalar digits c.toNat) ('\x7d' :: rest) =
      (textFrom? .plain rest).map (c :: ·) := by
  have hvalid : c.toNat.isValidChar := c.valid
  have hbrace : Text.hexValue? '\x7d' = none := by decide
  have hnext : (Progress.scalar digits c.toNat).next? .text '\x7d' = some .plain := by
    simp [Progress.next?, Progress.onScalar?, Content.admits, hbrace, hdigits, hvalid]
  have hdenoted : (Progress.scalar digits c.toNat).denoted '\x7d' = [c] := by
    rw [Progress.denoted, if_pos rfl, Char.ofNat_toNat]
  rw [textFrom?_cons (absurd · (by decide)) hnext, hdenoted]
  rfl

theorem textFrom?_codePoint (c : Char) (rest : List Char) :
    textFrom? .plain (['\\', 'u', '\x7b'] ++ Text.hexNumber c.toNat ++ ['\x7d'] ++ rest) =
      (textFrom? .plain rest).map (c :: ·) := by
  have hopening (rest : List Char) :
      textFrom? .escape ('u' :: '\x7b' :: rest) = textFrom? (.scalar 0 0) rest := by
    rw [textFrom?_within (by decide) rfl rfl, textFrom?_within (by decide) rfl rfl]
  have hsome : (Text.hexNumber c.toNat).length ≠ 0 := by
    rw [Ne, List.length_eq_zero_iff]
    exact Nat.toDigits_ne_nil
  simp only [List.cons_append, List.nil_append, List.append_assoc]
  rw [textFrom?_backslash, hopening, textFrom?_hexNumber (hexNumber_length c),
    textFrom?_closing hsome]

/-- Every character is denoted by how it is written. -/
theorem textFrom?_escapeChar (c : Char) (rest : List Char) :
    textFrom? .plain (Text.escapeChar '"' c ++ rest) = (textFrom? .plain rest).map (c :: ·) := by
  unfold Text.escapeChar
  split
  · exact textFrom?_letter rfl rfl rest
  · exact textFrom?_letter rfl rfl rest
  · exact textFrom?_letter rfl rfl rest
  · exact textFrom?_letter rfl rfl rest
  · exact textFrom?_letter rfl rfl rest
  · next htab hcarriage hline hescape hzero =>
    split
    · next hquote =>
      subst hquote
      exact textFrom?_letter rfl rfl rest
    · next hquote =>
      split
      · exact textFrom?_itself hquote hescape hcarriage rest
      · exact textFrom?_codePoint c rest

/-- The zero character in two digits. -/
theorem textFrom?_zero (rest : List Char) :
    textFrom? .plain (['\\', 'x', '0', '0'] ++ rest) =
      (textFrom? .plain rest).map ('\x00' :: ·) := by
  simp only [List.cons_append, List.nil_append]
  rw [textFrom?_backslash, textFrom?_within (by decide) rfl rfl,
    textFrom?_within (by decide) rfl rfl, textFrom?_cons (absurd · (by decide)) rfl]
  rfl

theorem textFrom?_literalChars (cs rest : List Char) :
    textFrom? .plain (Token.literalChars cs ++ rest) =
      (textFrom? .plain rest).map (cs ++ ·) := by
  induction cs with
  | nil => exact Option.map_id_apply.symm
  | cons c cs ih =>
    rw [Token.literalChars, List.append_assoc]
    have hwritten : textFrom? .plain
        ((if c = '\x00' ∧ (cs.head?.any fun next => '0' ≤ next && next ≤ '7') then
          ['\\', 'x', '0', '0'] else Text.escapeChar '"' c) ++ (Token.literalChars cs ++ rest)) =
        (textFrom? .plain (Token.literalChars cs ++ rest)).map (c :: ·) := by
      split
      · next hzero =>
        obtain ⟨rfl, _⟩ := hzero
        exact textFrom?_zero _
      · exact textFrom?_escapeChar c _
    rw [hwritten, ih, Option.map_map]
    rfl

/-- The literal of a text denotes the text. -/
theorem text?_quoted (s : String) :
    text? (String.ofList ('"' :: Token.literalChars s.toList ++ ['"'])) = some s := by
  have hinside := textFrom?_literalChars s.toList ['"']
  have hend : textFrom? .plain ['"'] = some [] := rfl
  rw [hend, Option.map_some, List.append_nil] at hinside
  rw [text?, String.toList_ofList, List.cons_append]
  change (textFrom? .plain (Token.literalChars s.toList ++ ['"'])).map String.ofList = some s
  rw [hinside, Option.map_some, String.ofList_toList]

/-- A line end, a quotation mark and a zero in front of a digit, read back. -/
example : text? "\"a\\n\\\"\\x001\"" = some "a\n\"\x001" := by decide +kernel

end EntityForge.Literal
