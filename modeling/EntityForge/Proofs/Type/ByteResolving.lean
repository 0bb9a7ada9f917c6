import EntityForge.Proofs.Type.Grammar
import Mathlib.Data.String.Basic

/-!
Byte positions in a text. A part of a text stands between two positions, which count the bytes in
front of it and up to its end. The byte at the head of a part is the first one of its first
character; a character that takes several bytes has none among them that could be taken for a mark
of the grammar, so that a scan for marks may go byte by byte.
-/

namespace EntityForge.Signature

/-! Bytes of characters. -/

theorem byteLength_eq (cs : List Char) : byteLength cs = String.utf8Len cs := by
  induction cs with
  | nil => rfl
  | cons c cs ih =>
    rw [String.utf8Len_cons, ← ih, Nat.add_comm]
    rfl

@[simp] theorem byteLength_nil : byteLength [] = 0 := rfl

@[simp] theorem byteLength_cons (c : Char) (cs : List Char) :
    byteLength (c :: cs) = c.utf8Size + byteLength cs := rfl

@[simp] theorem byteLength_append (cs more : List Char) :
    byteLength (cs ++ more) = byteLength cs + byteLength more := by
  simp only [byteLength_eq, String.utf8Len_append]

theorem byteLength_toList (s : String) : byteLength s.toList = s.utf8ByteSize := by
  rw [byteLength_eq, String.utf8Len_toList]

theorem byteLength_eq_zero {cs : List Char} : byteLength cs = 0 ↔ cs = [] := by
  rw [byteLength_eq, String.utf8Len_eq_zero]

theorem add_byteLength_eq {cs : List Char} {pos : Nat} : pos + byteLength cs = pos ↔ cs = [] := by
  rw [← byteLength_eq_zero]
  omega

/-- Brackets take one byte each. -/
theorem byteLength_ascii {cs : List Char} (h : ∀ c ∈ cs, c.utf8Size = 1) :
    byteLength cs = cs.length := by
  induction cs with
  | nil => rfl
  | cons c cs ih =>
    obtain ⟨hc, hcs⟩ := List.forall_mem_cons.mp h
    rw [byteLength_cons, hc, ih hcs, List.length_cons, Nat.add_comm]

theorem toNat_ofByte (b : UInt8) : (Char.ofNat b.toNat).toNat = b.toNat := by
  have hb := b.toNat_lt
  have hvalid : b.toNat.isValidChar := .inl (by omega)
  rw [Char.ofNat, dif_pos hvalid]
  rfl

theorem encode_ascii {c : Char} (h : c.toNat < 128) :
    String.utf8EncodeChar c = [UInt8.ofNat c.toNat] := by
  have hval : c.val.toNat ≤ 127 := Nat.le_of_lt_succ h
  unfold String.utf8EncodeChar
  simp only [hval, if_true]
  rfl

/-- No byte of a character beyond ASCII is an ASCII character. -/
theorem encode_high {c : Char} (h : 128 ≤ c.toNat) :
    ∀ b ∈ String.utf8EncodeChar c, 128 ≤ b.toNat := by
  have hval : ¬ c.val.toNat ≤ 127 := Nat.not_le_of_lt h
  unfold String.utf8EncodeChar
  simp only [hval, if_false]
  intro b hb
  split at hb
  · simp only [List.mem_cons, List.not_mem_nil, or_false] at hb
    rcases hb with rfl | rfl <;> rw [UInt8.toNat_ofNat'] <;> omega
  · split at hb
    · simp only [List.mem_cons, List.not_mem_nil, or_false] at hb
      rcases hb with rfl | rfl | rfl <;> rw [UInt8.toNat_ofNat'] <;> omega
    · simp only [List.mem_cons, List.not_mem_nil, or_false] at hb
      rcases hb with rfl | rfl | rfl | rfl <;> rw [UInt8.toNat_ofNat'] <;> omega

theorem utf8Size_ascii {c : Char} (h : c.toNat < 128) : c.utf8Size = 1 := by
  rw [← String.length_utf8EncodeChar, encode_ascii h]
  rfl

theorem leadByte_ascii {c : Char} (h : c.toNat < 128) : leadByte c = c := by
  have hbyte : (UInt8.ofNat c.toNat).toNat = c.toNat := by
    rw [UInt8.toNat_ofNat']
    omega
  unfold leadByte
  rw [encode_ascii h]
  dsimp only
  rw [hbyte, Char.ofNat_toNat]

theorem leadByte_high {c : Char} (h : 128 ≤ c.toNat) : 128 ≤ (leadByte c).toNat := by
  unfold leadByte
  have hall := encode_high h
  split
  · next b rest heq =>
    rw [toNat_ofByte]
    exact hall b (heq ▸ List.mem_cons_self)
  · exact h

/-- The first byte of a character is a mark only if the character is. -/
theorem leadByte_eq_iff {c m : Char} (hm : m.toNat < 128) : leadByte c = m ↔ c = m := by
  by_cases hc : c.toNat < 128
  · rw [leadByte_ascii hc]
  · have hlead := leadByte_high (Nat.le_of_not_lt hc)
    refine iff_of_false ?_ ?_
    · rintro rfl
      omega
    · rintro rfl
      exact hc hm

/-! Positions. -/

/-- The byte at a position of a text, as the character with that code. -/
def byte? (s : String) (pos : Nat) : Option Char :=
  s.toUTF8.data[pos]?.map fun b => Char.ofNat b.toNat

/-- The characters between two positions, both of which have to be at the edge of a character. -/
def part? (s : String) (start stop : Nat) : Option (List Char) :=
  if start ≤ stop ∧ String.Pos.Raw.isValid s ⟨start⟩ ∧ String.Pos.Raw.isValid s ⟨stop⟩ then
    some (String.Pos.Raw.extract s ⟨start⟩ ⟨stop⟩).toList
  else none

/-- Characters stand in a text between two positions. -/
def Stands (s : String) (pos : Nat) (cs : List Char) (stop : Nat) : Prop :=
  ∃ before after, s.toList = before ++ (cs ++ after) ∧ byteLength before = pos ∧
    pos + byteLength cs = stop

theorem bytes_eq (s : String) :
    s.toUTF8.data.toList = s.toList.flatMap String.utf8EncodeChar := by
  have hencode : s.toList.utf8Encode = s.toUTF8 := String.utf8Encode_toList
  rw [← hencode, List.utf8Encode, List.toList_data_toByteArray]

theorem bytes_length (cs : List Char) :
    (cs.flatMap String.utf8EncodeChar).length = byteLength cs := by
  induction cs with
  | nil => rfl
  | cons c cs ih =>
    rw [List.flatMap_cons, List.length_append, ih, String.length_utf8EncodeChar, byteLength_cons]

namespace Stands

variable {s : String} {pos stop : Nat} {c : Char} {cs more : List Char}

theorem whole (s : String) : Stands s 0 s.toList s.utf8ByteSize :=
  ⟨[], [], by simp, rfl, by rw [byteLength_toList, Nat.zero_add]⟩

theorem stop_eq (h : Stands s pos cs stop) : stop = pos + byteLength cs := by
  obtain ⟨_, _, _, _, hstop⟩ := h
  exact hstop.symm

theorem stop_le (h : Stands s pos cs stop) : stop ≤ s.utf8ByteSize := by
  obtain ⟨before, after, hs, hpos, hstop⟩ := h
  rw [← byteLength_toList, hs, byteLength_append, byteLength_append]
  omega

theorem left (h : Stands s pos (cs ++ more) stop) : Stands s pos cs (pos + byteLength cs) := by
  obtain ⟨before, after, hs, hpos, _⟩ := h
  exact ⟨before, more ++ after, by rw [hs, List.append_assoc], hpos, rfl⟩

theorem right (h : Stands s pos (cs ++ more) stop) : Stands s (pos + byteLength cs) more stop := by
  obtain ⟨before, after, hs, hpos, hstop⟩ := h
  refine ⟨before ++ cs, after, ?_, ?_, ?_⟩
  · rw [hs]
    simp only [List.append_assoc]
  · rw [byteLength_append, hpos]
  · rw [byteLength_append] at hstop
    omega

theorem tail (h : Stands s pos (c :: cs) stop) : Stands s (pos + c.utf8Size) cs stop := by
  have hsplit : Stands s pos ([c] ++ cs) stop := h
  exact hsplit.right

theorem tail_ascii (h : Stands s pos (c :: cs) stop) (hc : c.toNat < 128) :
    Stands s (pos + 1) cs stop := by
  have htail := h.tail
  rwa [utf8Size_ascii hc] at htail

theorem lt_stop (h : Stands s pos (c :: cs) stop) : pos < stop := by
  have hstop := h.stop_eq
  have hsize := c.utf8Size_pos
  rw [byteLength_cons] at hstop
  omega

theorem not_lt_stop (h : Stands s pos [] stop) : ¬ pos < stop := by
  rw [h.stop_eq]
  simp

/-- The bytes of the first character stand at the head. -/
theorem byte?_head (h : Stands s pos (c :: cs) stop) {k : Nat} (hk : k < c.utf8Size) :
    ∃ b, (String.utf8EncodeChar c)[k]? = some b ∧ byte? s (pos + k) = some (Char.ofNat b.toNat) := by
  obtain ⟨before, after, hs, rfl, _⟩ := h
  rw [← String.length_utf8EncodeChar] at hk
  refine ⟨(String.utf8EncodeChar c)[k], List.getElem?_eq_getElem hk, ?_⟩
  have hbyte : s.toUTF8.data.toList[byteLength before + k]? = some (String.utf8EncodeChar c)[k] := by
    rw [bytes_eq, hs, List.flatMap_append, ← bytes_length before,
      List.getElem?_append_right (Nat.le_add_right _ _), Nat.add_sub_cancel_left, List.cons_append,
      List.flatMap_cons, List.getElem?_append_left hk, List.getElem?_eq_getElem hk]
  rw [byte?, ← Array.getElem?_toList, hbyte, Option.map_some]

theorem byte?_lead (h : Stands s pos (c :: cs) stop) : byte? s pos = some (leadByte c) := by
  obtain ⟨b, hb, hbyte⟩ := h.byte?_head c.utf8Size_pos
  rw [Nat.add_zero] at hbyte
  rw [hbyte]
  unfold leadByte
  split
  · next head rest heq =>
    rw [heq] at hb
    cases hb
    rfl
  · next heq =>
    rw [heq] at hb
    cases hb

/-- Whatever passes over all bytes beyond ASCII passes over a character beyond ASCII. -/
theorem skip {β : Type} {f : Nat → β} (h : Stands s pos (c :: cs) stop) (hc : 128 ≤ c.toNat)
    (hf : ∀ i d, i < stop → byte? s i = some d → 128 ≤ d.toNat → f i = f (i + 1)) :
    f pos = f (pos + c.utf8Size) := by
  have hpart : ∀ k ≤ c.utf8Size, f pos = f (pos + k) := by
    intro k
    induction k with
    | zero => exact fun _ => rfl
    | succ k ih =>
      intro hk
      obtain ⟨b, hb, hbyte⟩ := h.byte?_head (Nat.lt_of_succ_le hk)
      have hhigh : 128 ≤ (Char.ofNat b.toNat).toNat := by
        rw [toNat_ofByte]
        exact encode_high hc b (List.mem_of_getElem? hb)
      have hinside : pos + k < stop := by
        have hstop := h.stop_eq
        rw [byteLength_cons] at hstop
        omega
      rw [ih (Nat.le_of_succ_le hk), hf (pos + k) _ hinside hbyte hhigh, Nat.add_assoc]
  exact hpart _ (Nat.le_refl _)

/-- What stands between two positions is what is cut out there. -/
theorem part?_eq (h : Stands s pos cs stop) : part? s pos stop = some cs := by
  obtain ⟨before, after, hs, hpos, hstop⟩ := h
  have htext : s = String.ofList before ++ (String.ofList cs ++ String.ofList after) := by
    rw [← String.ofList_append, ← String.ofList_append, ← hs, String.ofList_toList]
  rw [byteLength_eq] at hpos hstop
  subst hpos
  have hstart : String.Pos.Raw.isValid s ⟨String.utf8Len before⟩ = true := by
    apply String.Pos.Raw.isValid_eq_true_iff.mpr
    apply String.Pos.Raw.isValid_iff_exists_append.mpr
    exact ⟨_, _, htext, (String.rawEndPos_ofList before).symm⟩
  have hend : String.Pos.Raw.isValid s ⟨stop⟩ = true := by
    apply String.Pos.Raw.isValid_eq_true_iff.mpr
    apply String.Pos.Raw.isValid_iff_exists_append.mpr
    refine ⟨String.ofList (before ++ cs), String.ofList after, ?_, ?_⟩
    · rw [htext, String.ofList_append, String.append_assoc]
    · rw [String.rawEndPos_ofList, String.utf8Len_append, hstop]
  have hextract := String.extract_of_valid before cs after
  rw [hstop, List.append_assoc, ← hs, String.ofList_toList] at hextract
  rw [part?, if_pos ⟨by omega, hstart, hend⟩, hextract, String.toList_ofList]

end Stands

end EntityForge.Signature

/-!
Resolving by byte positions. The grammar is read once more, from the bytes of a text between two
positions, with a check in front of everything that could go wrong: that a byte is there, that a
name is cut out at the edges of characters, that a bracket that is closed was opened, that every
type takes at least one byte. No check ever fails; the types, the errors and the positions are those
that resolving from characters finds.
-/

namespace EntityForge

/-- The position that an error is about. -/
def SignatureError.position? : SignatureError → Option Nat
  | unexpectedEnd pos | unexpectedChar _ pos | unbalanced pos | emptyName pos | emptyArguments pos
  | tooManyDimensions pos | unsupported _ pos => some pos
  | empty | tooDeep | count .. => none

namespace Signature

inductive Fault where
  | outside | insideCharacter | unopened | stalled
  deriving DecidableEq

/-- Why nothing was resolved: the text is refused, or something happened that must not. -/
inductive Stop where
  | refused (e : SignatureError)
  | fault (f : Fault)
  deriving DecidableEq

abbrev Reading (α : Type) := Except Stop α

namespace Bytewise

variable (s : String)

def byteAt (pos : Nat) : Reading Char :=
  match byte? s pos with
  | some c => .ok c
  | none => .error (.fault .outside)

/-- The byte at a position in front of the end. -/
def peek (pos stop : Nat) : Reading Char :=
  if pos < stop then byteAt s pos else .error (.refused (.unexpectedEnd pos))

/-- Refuses the byte at a position. -/
def refuse {α : Type} (pos : Nat) : Reading α := do
  let c ← byteAt s pos
  .error (.refused (.unexpectedChar c pos))

/-- The characters between two positions, which have to be at the edges of characters. -/
def part (start stop : Nat) : Reading (List Char) :=
  match part? s start stop with
  | some cs => .ok cs
  | none => .error (.fault .insideCharacter)

/-- The first position in front of the end where a byte does not pass, or else the end. -/
def scan (pass : Char → Bool) (stop pos : Nat) : Reading Nat :=
  if pos < stop then
    match byteAt s pos with
    | .error e => .error e
    | .ok c => if pass c then scan pass stop (pos + 1) else .ok pos
  else .ok pos
termination_by stop - pos

/-- Counts array brackets, of which there were `dims` before the position. -/
def bracketsFrom (stop dims pos : Nat) : Reading (Nat × Nat) :=
  if pos < stop then
    match byteAt s pos with
    | .error e => .error e
    | .ok c =>
      if c = '[' then
        if dims = 255 then .error (.refused (.tooManyDimensions pos))
        else bracketsFrom stop (dims + 1) (pos + 1)
      else .ok (dims, pos)
  else .error (.refused (.unexpectedEnd pos))
termination_by stop - pos

/-- The position of the bracket that closes the one at `opened`; `depth` of them are open. -/
def closingFrom (opened stop depth pos : Nat) : Reading Nat :=
  if pos < stop then
    match byteAt s pos with
    | .error e => .error e
    | .ok c =>
      if c = '<' then closingFrom opened stop (depth + 1) (pos + 1)
      else if c = '>' then
        if depth = 0 then .error (.fault .unopened)
        else if depth - 1 = 0 then .ok pos
        else closingFrom opened stop (depth - 1) (pos + 1)
      else closingFrom opened stop depth (pos + 1)
  else .error (.refused (.unbalanced opened))
termination_by stop - pos

/-- The position of the bracket that closes the one at `opened`, of all the bytes from there on, which
have to be in the text. -/
def closing (opened stop : Nat) : Reading Nat :=
  if opened ≤ stop ∧ stop ≤ s.utf8ByteSize then closingFrom s opened stop 0 opened
  else .error (.fault .outside)

/-- Resolves every type up to the end in turn; `done` is reversed. -/
def typesIn (one : Nat → Nat → Reading (TypeTree × Nat)) (stop : Nat) (done : List TypeTree)
    (pos : Nat) : Reading (List TypeTree) :=
  if pos < stop then
    match one pos stop with
    | .error e => .error e
    | .ok (t, next) =>
      if pos < next then typesIn one stop (t :: done) next else .error (.fault .stalled)
  else .ok done.reverse
termination_by stop - pos

/-- Resolves a type variable whose marker stands at a position. -/
def variableAt (pos stop : Nat) : Reading (TypeTree × Nat) := do
  let start := pos + 1
  let i ← scan s isVariableNameChar stop start
  let mark ← peek s i stop
  if mark ≠ ';' then refuse s i
  else if i = start then .error (.refused (.emptyName start))
  else do
    let name ← part s start i
    return (.ofVariable (String.ofList name), i + 1)

/-- Resolves the end of a class type whose arguments end at the bracket at `close`. -/
def classEnd (t : TypeTree) (close stop : Nat) : Reading (TypeTree × Nat) := do
  let mark ← peek s (close + 1) stop
  if mark = ';' then return (t, close + 2)
  else if mark = '.' then .error (.refused (.unsupported .innerClass (close + 1)))
  else refuse s (close + 1)

/-- Resolves a class type whose marker stands at a position, with `inner` for its arguments. -/
def classAt (inner : Nat → Nat → Reading (TypeTree × Nat)) (pos stop : Nat) :
    Reading (TypeTree × Nat) := do
  let start := pos + 1
  let i ← scan s isClassNameChar stop start
  let mark ← peek s i stop
  if mark = '.' then .error (.refused (.unsupported .innerClass i))
  else if mark ≠ ';' ∧ mark ≠ '<' then refuse s i
  else if i = start then .error (.refused (.emptyName start))
  else do
    let name ← part s start i
    if mark = ';' then return (.ofClass (TypeTree.dotted name), i + 1)
    else do
      let close ← closing s i stop
      if close = i + 1 then .error (.refused (.emptyArguments i))
      else do
        let args ← typesIn inner close [] (i + 1)
        classEnd s { TypeTree.ofClass (TypeTree.dotted name) with args := args } close stop

/-- Resolves a type without bound and dimensions. -/
def elementAt (inner : Nat → Nat → Reading (TypeTree × Nat)) (pos stop : Nat) :
    Reading (TypeTree × Nat) := do
  let code ← peek s pos stop
  if code = 'L' then classAt s inner pos stop
  else if code = 'T' then variableAt s pos stop
  else if code = 'V' then .error (.refused (.unsupported .voidType pos))
  else
    match Primitive.ofLetter? code with
    | some p => return (.ofPrimitive p, pos + 1)
    | none => refuse s pos

def arrayAt (inner : Nat → Nat → Reading (TypeTree × Nat)) (bound : Bound) (pos stop : Nat) :
    Reading (TypeTree × Nat) := do
  let (dims, pos) ← bracketsFrom s stop 0 pos
  let (t, next) ← elementAt s inner pos stop
  return ({ t with dims := UInt8.ofNat dims, bound := bound }, next)

/-- Resolves one type between two positions, which may nest `levels - 1` argument lists. -/
def typeAt : (levels : Nat) → (pos stop : Nat) → Reading (TypeTree × Nat)
  | 0, _, _ => .error (.refused .tooDeep)
  | levels + 1, pos, stop => do
    let mark ← peek s pos stop
    if mark = '*' then return (.anyType, pos + 1)
    else if mark = '+' then arrayAt s (typeAt levels) .upper (pos + 1) stop
    else if mark = '-' then arrayAt s (typeAt levels) .lower (pos + 1) stop
    else arrayAt s (typeAt levels) .exact pos stop

def outermost : (pos stop : Nat) → Reading (TypeTree × Nat) := typeAt s (maxDepth + 1)

/-- Resolves a concatenation of types, of which there is at least one. -/
def parseTypes : Reading (List TypeTree) :=
  if s.utf8ByteSize = 0 then .error (.refused .empty)
  else typesIn (outermost s) s.utf8ByteSize [] 0

def parseType : Reading TypeTree := do
  match ← parseTypes s with
  | [t] => return t
  | ts => .error (.refused (.count 1 ts.length))

/-- Resolves the result of a method behind the parenthesis at a position. -/
def resultFrom (params : List TypeTree) (close : Nat) : Reading MethodType := do
  let mark ← peek s (close + 1) s.utf8ByteSize
  let (result, next) ←
    if mark = 'V' then .ok (none, close + 2)
    else (outermost s (close + 1) s.utf8ByteSize).map fun (t, next) => (some t, next)
  if next < s.utf8ByteSize then
    let behind ← byteAt s next
    if behind = '^' then return ⟨params, result⟩ else refuse s next
  else return ⟨params, result⟩

/-- Resolves a method signature. The parameter list ends at the first closing parenthesis. -/
def parseMethod : Reading MethodType :=
  match byte? s 0 with
  | none => .error (.refused .empty)
  | some c =>
    if c = '<' then .error (.refused (.unsupported .methodTypeParameters 0))
    else if c = '(' then do
      let close ← scan s (· ≠ ')') s.utf8ByteSize 0
      if close < s.utf8ByteSize then
        let params ← typesIn (outermost s) close [] 1
        resultFrom s params close
      else .error (.refused (.unexpectedEnd s.utf8ByteSize))
    else refuse s 0

end Bytewise

end Signature

end EntityForge
