import EntityForge.Source.EntitySource

/-!
Reading a table back from the tokens of its module, as a compiler does: the constants are found by
their names and types, the fields of a structure by their names. What a text literal stands for is
left open. Whatever the path to the types is, the table that was written is read.
-/

namespace EntityForge

namespace Token

def text? (textOf : String → Option String) : List Token → Option String
  | [literal s] => textOf s
  | _ => none

/-- The truth value that a value stands for. -/
def flag? : List Token → Option Bool
  | [word "true"] => some true
  | [word "false"] => some false
  | _ => none

def isComma : Token → Bool
  | mark ',' _ => true
  | _ => false

/-- The items between commas; the one that is begun already has `item`. No item is behind the last
comma if nothing is. -/
def items (item : List Token) : List Token → List (List Token)
  | [] => if item.isEmpty then [] else [item]
  | t :: ts => if t.isComma then item :: items [] ts else items (item ++ [t]) ts

def texts? (textOf : String → Option String) : List Token → Option (List String)
  | [mark '&' _, group .bracket inside] => (items [] inside).mapM (text? textOf)
  | _ => none

/-- A field of a structure: its name and its value. -/
def field? : List Token → Option (String × List Token)
  | word name :: mark ':' _ :: value => some (name, value)
  | _ => none

def textField? (textOf : String → Option String) (fields : List (String × List Token))
    (name : String) : Option String :=
  (fields.lookup name).bind (text? textOf)

def textsField? (textOf : String → Option String) (fields : List (String × List Token))
    (name : String) : Option (List String) :=
  (fields.lookup name).bind (texts? textOf)

def flagField? (fields : List (String × List Token)) (name : String) : Option Bool :=
  (fields.lookup name).bind flag?

/-- The tokens behind those of `front`, where the same is written. -/
def behind? (front ts : List Token) : Option (List Token) :=
  if render (ts.take front.length) = render front then some (ts.drop front.length) else none

def structure? (type ts : List Token) : Option (List (String × List Token) × List Token) :=
  match behind? type ts with
  | some (group .brace inside :: rest) =>
    ((items [] inside).mapM field?).map fun fields => (fields, rest)
  | _ => none

theorem structure?_shorter {type ts rest : List Token} {fields : List (String × List Token)}
    (h : structure? type ts = some (fields, rest)) : rest.length < ts.length := by
  unfold structure? behind? at h
  split at h
  · next hbehind =>
    obtain ⟨_, _, heq⟩ := Option.map_eq_some_iff.mp h
    cases heq
    split at hbehind
    · have hlength := congrArg List.length (Option.some.inj hbehind)
      rw [List.length_drop, List.length_cons] at hlength
      omega
    · cases hbehind
  · cases h

/-- The fields of structures of a type, with a comma behind each. -/
def structures? (type ts : List Token) : Option (List (List (String × List Token))) :=
  match ts with
  | [] => some []
  | t :: ts =>
    match _hread : structure? type (t :: ts) with
    | some (fields, mark ',' _ :: rest) => (structures? type rest).map (fields :: ·)
    | _ => none
termination_by ts.length
decreasing_by
  have hshorter := structure?_shorter _hread
  simp only [List.length_cons] at hshorter ⊢
  omega

/-- The tokens of the value of a constant, and those behind it. -/
def constant? (name : String) (type ts : List Token) : Option (List Token) :=
  behind? (words ["pub", "const", name] ++ [sign ':'] ++ type ++ [sign '=']) ts

end Token

namespace PropertyRow

def ofFields? (textOf : String → Option String) (fields : List (String × List Token)) :
    Option PropertyRow := do
  return {
    name := ← Token.textField? textOf fields "name"
    fullName := ← Token.textField? textOf fields "full_name"
    mappedName := ← Token.textField? textOf fields "mapped_name"
    loadNames := ← Token.textsField? textOf fields "load_names"
    typeSignature := ← Token.textField? textOf fields "type_signature"
    accessorClass := ← Token.textField? textOf fields "accessor_class"
    flags := {
      array := ← Token.flagField? fields "is_array"
      map := ← Token.flagField? fields "is_map"
      set := ← Token.flagField? fields "is_set"
      collection := ← Token.flagField? fields "is_collection"
      constant := ← Token.flagField? fields "is_final"
      transient := ← Token.flagField? fields "is_transient"
      reference := ← Token.flagField? fields "is_reference"
      id := ← Token.flagField? fields "is_id"
      version := ← Token.flagField? fields "is_version" }
    annotationText := ← Token.textField? textOf fields "annotations_json" }

end PropertyRow

namespace EntityTable

/-- The table that has some fields, where `rows` are the properties of the module. -/
def ofFields? (textOf : String → Option String) (rows : List PropertyRow)
    (fields : List (String × List Token)) : Option EntityTable := do
  return {
    name := ← Token.textField? textOf fields "name"
    simpleName := ← Token.textField? textOf fields "simple_name"
    collectionName := ← Token.textField? textOf fields "collection_name"
    discriminator := ← Token.textField? textOf fields "discriminator"
    discriminatorKey := ← Token.textField? textOf fields "discriminator_key"
    useDiscriminator := ← Token.flagField? fields "use_discriminator"
    isAbstract := ← Token.flagField? fields "is_abstract"
    isInterface := ← Token.flagField? fields "is_interface"
    isEmbedded := ← Token.flagField? fields "is_embedded"
    annotationText := ← Token.textField? textOf fields "annotations_json"
    properties := ←
      match fields.lookup "properties" with
      | some [.word "PROPERTIES"] => some rows
      | _ => none }

def rows? (textOf : String → Option String) (path : ModulePath) (ts : List Token) :
    Option (List PropertyRow × List Token) :=
  let type := path.member rowType
  match Token.constant? "PROPERTIES" [.sign '&', .group .bracket type] ts with
  | some (.mark '&' _ :: .group .bracket inside :: .mark ';' _ :: ts) => do
    return (← (← Token.structures? type inside).mapM (PropertyRow.ofFields? textOf), ts)
  | _ => none

def model? (textOf : String → Option String) (path : ModulePath) (rows : List PropertyRow)
    (ts : List Token) : Option EntityTable :=
  let type := path.member tableType
  match (Token.constant? "MODEL" type ts).bind (Token.structure? type) with
  | some (fields, [.mark ';' _]) => ofFields? textOf rows fields
  | _ => none

/-- Reads the table that a module declares. The path leads to the types of the table. -/
def read? (textOf : String → Option String) (path : ModulePath) :
    List Token → Option EntityTable
  | .mark '#' _ :: .mark '!' _ :: .group .bracket _ :: ts =>
    (rows? textOf path ts).bind fun (rows, ts) => model? textOf path rows ts
  | _ => none

end EntityTable

/-! What is written is read. -/

/-- What is read from each of some writings is what was written. -/
private theorem mapM_map_some {α β : Type} {write : α → β} {read : β → Option α}
    (h : ∀ a, read (write a) = some a) (items : List α) :
    (items.map write).mapM read = some items := by
  rw [List.mapM_map, funext (f := read ∘ write) h]
  exact (List.mapM_pure (f := id)).trans (by rw [List.map_id]; rfl)

namespace Token

/-- A value has no comma outside of brackets. -/
def Undivided (value : List Token) : Prop := ∀ t ∈ value, t.isComma = false

theorem items_append {value : List Token} (h : Undivided value) (item ts : List Token) :
    items item (value ++ ts) = items (item ++ value) ts := by
  induction value generalizing item with
  | nil => simp
  | cons t value ih =>
    obtain ⟨ht, hvalue⟩ := List.forall_mem_cons.mp h
    rw [List.cons_append, items, ht, if_neg Bool.false_ne_true, ih hvalue, List.append_assoc,
      List.singleton_append]

theorem items_comma (item ts : List Token) :
    items item (sign ',' :: ts) = item :: items [] ts := by
  rw [items, sign, isComma, if_pos rfl]

/-- Separated tokens are found one by one. -/
theorem items_separated {tokens : List Token} (h : Undivided tokens) :
    items [] (separated tokens) = tokens.map ([·]) := by
  induction tokens with
  | nil => rfl
  | cons t tokens ih =>
    obtain ⟨ht, htokens⟩ := List.forall_mem_cons.mp h
    have hfirst (ts : List Token) : items [] (t :: ts) = items [t] ts := by
      rw [items, ht, if_neg Bool.false_ne_true, List.nil_append]
    cases tokens with
    | nil => exact hfirst []
    | cons u tokens =>
      have hseparated : separated (t :: u :: tokens) = t :: sign ',' :: separated (u :: tokens) := rfl
      rw [hseparated, hfirst, items_comma, ih htokens]
      rfl

/-- The fields of a structure are found by their names. -/
theorem fields_read {fields : List (String × List Token)} (h : ∀ f ∈ fields, Undivided f.2) :
    (items [] (fields.flatMap fun (key, value) =>
      [word key, sign ':'] ++ value ++ [sign ','])).mapM field? = some fields := by
  induction fields with
  | nil => rfl
  | cons f fields ih =>
    obtain ⟨key, value⟩ := f
    obtain ⟨hvalue, hfields⟩ := List.forall_mem_cons.mp h
    have hundivided : Undivided ([word key, sign ':'] ++ value) := by
      intro t ht
      rcases List.mem_append.mp ht with ht | ht
      · simp only [List.mem_cons, List.not_mem_nil, or_false] at ht
        rcases ht with rfl | rfl <;> rfl
      · exact hvalue t ht
    rw [List.flatMap_cons, List.append_assoc, items_append hundivided, List.singleton_append,
      items_comma, List.mapM_cons, ih hfields]
    rfl

theorem behind?_append (front ts : List Token) : behind? front (front ++ ts) = some ts := by
  rw [behind?, List.take_left, List.drop_left, if_pos rfl]

theorem constant?_tokens (name : String) (type value ts : List Token) :
    constant? name type (EntityTable.constantTokens name type value ++ ts) =
      some (value ++ sign ';' :: ts) := by
  rw [constant?, EntityTable.constantTokens, List.append_assoc _ value, List.append_assoc _ _ ts,
    behind?_append, List.append_assoc, List.singleton_append]

theorem structure?_tokens (path : ModulePath) (type : String)
    {fields : List (String × List Token)} (h : ∀ f ∈ fields, Undivided f.2) (ts : List Token) :
    structure? (path.member type) (EntityTable.valueTokens path type fields ++ ts) =
      some (fields, ts) := by
  rw [structure?, EntityTable.valueTokens, List.append_assoc, behind?_append]
  simp only [List.singleton_append, fields_read h, Option.map_some]

theorem structures?_tokens (path : ModulePath) (type : String)
    {structures : List (List (String × List Token))}
    (h : ∀ fields ∈ structures, ∀ f ∈ fields, Undivided f.2) :
    structures? (path.member type) (structures.flatMap fun fields =>
      EntityTable.valueTokens path type fields ++ [sign ',']) = some structures := by
  induction structures with
  | nil =>
    rw [List.flatMap_nil, structures?]
  | cons fields structures ih =>
    obtain ⟨hfields, hstructures⟩ := List.forall_mem_cons.mp h
    have hread := structure?_tokens path type hfields (sign ',' :: structures.flatMap fun fields =>
      EntityTable.valueTokens path type fields ++ [sign ','])
    rw [List.flatMap_cons, List.append_assoc, List.singleton_append]
    generalize htokens : EntityTable.valueTokens path type fields ++ _ = tokens at hread ⊢
    cases tokens with
    | nil => exact absurd (structure?_shorter hread) (Nat.not_lt_zero _)
    | cons t ts =>
      rw [structures?]
      split
      · next hfound =>
        cases hread.symm.trans hfound
        rw [ih hstructures, Option.map_some]
      · next hnone => exact absurd hread (hnone _ _ _)

variable {textOf : String → Option String}

theorem texts?_quoted (h : ∀ s, text? textOf [quoted s] = some s) (texts : List String) :
    texts? textOf [sign '&', group .bracket (separated (texts.map quoted))] = some texts := by
  have hundivided : Undivided (texts.map quoted) := by
    intro t ht
    obtain ⟨s, _, rfl⟩ := List.mem_map.mp ht
    rfl
  change (items [] (separated (texts.map quoted))).mapM (text? textOf) = some texts
  rw [items_separated hundivided, List.map_map]
  exact mapM_map_some h texts

theorem flag?_bool (b : Bool) : flag? [bool b] = some b := by
  cases b <;> rfl

variable (fields : List (String × List Token))

theorem textField?_quoted (h : ∀ s, text? textOf [quoted s] = some s) (name s : String)
    (hfield : fields.lookup name = some [quoted s]) : textField? textOf fields name = some s := by
  rw [textField?, hfield, Option.bind_some, h]

theorem textsField?_quoted (h : ∀ s, text? textOf [quoted s] = some s) (name : String)
    (texts : List String) (hfield : fields.lookup name =
      some [sign '&', group .bracket (separated (texts.map quoted))]) :
    textsField? textOf fields name = some texts := by
  rw [textsField?, hfield, Option.bind_some, texts?_quoted h]

theorem flagField?_bool (name : String) (b : Bool) (hfield : fields.lookup name = some [bool b]) :
    flagField? fields name = some b := by
  rw [flagField?, hfield, Option.bind_some, flag?_bool]

end Token

namespace PropertyRow

theorem fields_undivided (row : PropertyRow) : ∀ f ∈ row.fields, Token.Undivided f.2 := by
  unfold fields Token.Undivided
  simp [Token.quoted, Token.bool, Token.sign, Token.isComma]

theorem ofFields?_fields {textOf : String → Option String}
    (h : ∀ s, Token.text? textOf [Token.quoted s] = some s) (row : PropertyRow) :
    ofFields? textOf row.fields = some row := by
  have htext := Token.textField?_quoted row.fields h
  have hflag := Token.flagField?_bool row.fields
  rw [ofFields?, htext "name" _ rfl, htext "full_name" _ rfl, htext "mapped_name" _ rfl,
    Token.textsField?_quoted row.fields h "load_names" _ rfl, htext "type_signature" _ rfl,
    htext "accessor_class" _ rfl, hflag "is_array" _ rfl, hflag "is_map" _ rfl,
    hflag "is_set" _ rfl, hflag "is_collection" _ rfl, hflag "is_final" _ rfl,
    hflag "is_transient" _ rfl, hflag "is_reference" _ rfl, hflag "is_id" _ rfl,
    hflag "is_version" _ rfl, htext "annotations_json" _ rfl]
  rfl

end PropertyRow

namespace EntityTable

theorem fields_undivided (table : EntityTable) : ∀ f ∈ table.fields, Token.Undivided f.2 := by
  unfold fields Token.Undivided
  simp [Token.quoted, Token.bool, Token.isComma]

theorem ofFields?_fields {textOf : String → Option String}
    (h : ∀ s, Token.text? textOf [Token.quoted s] = some s) (table : EntityTable) :
    ofFields? textOf table.properties table.fields = some table := by
  have htext := Token.textField?_quoted table.fields h
  have hflag := Token.flagField?_bool table.fields
  rw [ofFields?, htext "name" _ rfl, htext "simple_name" _ rfl, htext "collection_name" _ rfl,
    htext "discriminator" _ rfl, htext "discriminator_key" _ rfl,
    hflag "use_discriminator" _ rfl, hflag "is_abstract" _ rfl, hflag "is_interface" _ rfl,
    hflag "is_embedded" _ rfl, htext "annotations_json" _ rfl]
  rfl

theorem rows?_tokens {textOf : String → Option String}
    (h : ∀ s, Token.text? textOf [Token.quoted s] = some s) (path : ModulePath)
    (rows : List PropertyRow) (ts : List Token) :
    rows? textOf path
      (constantTokens "PROPERTIES" [.sign '&', .group .bracket (path.member rowType)]
        [.sign '&', .group .bracket (rows.flatMap fun row =>
          valueTokens path rowType row.fields ++ [Token.sign ','])] ++ ts) = some (rows, ts) := by
  have hundivided : ∀ fields ∈ rows.map PropertyRow.fields, ∀ f ∈ fields, Token.Undivided f.2 := by
    intro fields hfields
    obtain ⟨row, _, rfl⟩ := List.mem_map.mp hfields
    exact row.fields_undivided
  have hstructures := Token.structures?_tokens path rowType hundivided
  rw [List.flatMap_map] at hstructures
  have hrows := mapM_map_some (PropertyRow.ofFields?_fields h) rows
  rw [rows?, Token.constant?_tokens]
  change (do return (← (← Token.structures? _ _).mapM (PropertyRow.ofFields? textOf), ts)) = _
  rw [hstructures]
  simp [hrows]

theorem model?_tokens {textOf : String → Option String}
    (h : ∀ s, Token.text? textOf [Token.quoted s] = some s) (path : ModulePath)
    (table : EntityTable) :
    model? textOf path table.properties
      (constantTokens "MODEL" (path.member tableType) (valueTokens path tableType table.fields)) =
      some table := by
  have hconstant := Token.constant?_tokens "MODEL" (path.member tableType)
    (valueTokens path tableType table.fields) []
  rw [List.append_nil] at hconstant
  rw [model?, hconstant, Option.bind_some,
    Token.structure?_tokens path tableType table.fields_undivided]
  exact ofFields?_fields h table

/-- The table of a module is read back, if text literals are. -/
theorem read?_tokens {textOf : String → Option String}
    (h : ∀ s, Token.text? textOf [Token.quoted s] = some s) (path : ModulePath)
    (table : EntityTable) : read? textOf path (table.tokens path) = some table := by
  rw [tokens, List.append_assoc]
  change (rows? textOf path (constantTokens _ _ _ ++ _)).bind _ = _
  rw [rows?_tokens h path table.properties, Option.bind_some]
  exact model?_tokens h path table

end EntityTable

end EntityForge
