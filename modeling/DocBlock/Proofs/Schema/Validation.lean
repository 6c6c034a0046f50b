import DocBlock.Schema

/-!
# What a schema accepts

A schema is itself a JSON value, an object of keywords. `Json.Validates` gives the keywords that
occur here the meaning that the standard has for them: a value is valid when every keyword of the
schema holds of it (`Json.Holds`), and a reference stands for a definition of the whole schema. A
keyword that is about objects or about arrays asks nothing of other values.

The standard lets an object have fields that no schema lists. `Json.Describes` says that there are
none: every field of every object in a value stands under `properties` of the schema that is
responsible for the object.

`Schema.Covers` is both. It has one rule for each form of schema (`covers_text`, `covers_array`,
`covers_object`, …), so that nothing else has to look at keywords.
-/

namespace DocBlock

namespace Json

/-- The names that the keyword `type` has for a value. -/
def typeNames : Json → List Text
  | null => ["null"]
  | bool _ => ["boolean"]
  | number _ => ["number", "integer"]
  | string _ => ["string"]
  | array _ => ["array"]
  | object _ => ["object"]

/-- The items of an array. Other values have none. -/
def items : Json → List Json
  | array items => items
  | _ => []

/-- The fields of an object. Other values have none. -/
def fields : Json → List (Text × Json)
  | object fields => fields
  | _ => []

/-- A value is an object with a field. -/
def HasField (value : Json) (name : Text) (part : Json) : Prop := (name, part) ∈ value.fields

/-- The schema that a reference to a name stands for, in the whole schema `root`. -/
def definition? (root : Json) (name : Text) : Option Json :=
  (root.field? "definitions").bind (field? name)

mutual

/-- A value is valid for a schema, whose references are to definitions of the whole schema
`root`. -/
inductive Validates (root : Json) : Json → Json → Prop
  /-- A reference stands for its definition, and no keyword beside it counts. -/
  | reference {schema value target : Json} {name : Text}
      (ref : schema.HasField "$ref" (string ("#/definitions/" ++ name)))
      (definition : root.definition? name = some target) (valid : Validates root target value) :
      Validates root schema value
  /-- Without a reference, every keyword counts. -/
  | keywords {schema value : Json} (ref : ∀ target, ¬ schema.HasField "$ref" target)
      (holds : ∀ keyword argument, schema.HasField keyword argument →
        Holds root keyword argument value) :
      Validates root schema value

/-- A keyword with its argument holds of a value. -/
inductive Holds (root : Json) : Text → Json → Json → Prop
  /-- The value is of the named type. -/
  | type {name : Text} {value : Json} (h : name ∈ value.typeNames) :
      Holds root "type" (string name) value
  /-- The value is one of the choices. -/
  | enum {choices : List Json} {value : Json} (h : value ∈ choices) :
      Holds root "enum" (array choices) value
  /-- An object has all the named fields. -/
  | required {names : List Json} {value : Json}
      (h : ∀ fields, value = object fields → ∀ name, string name ∈ names →
        name ∈ fields.map Prod.fst) :
      Holds root "required" (array names) value
  /-- An array has at least so many items. -/
  | minItems {n : Int} {value : Json} (h : ∀ items, value = array items → n ≤ items.length) :
      Holds root "minItems" (number n) value
  /-- Every field of an object that is listed is valid for the schema it is listed with. -/
  | properties {listed : List (Text × Json)} {value : Json}
      (h : ∀ name part schema, value.HasField name part →
        (object listed).field? name = some schema → Validates root schema part) :
      Holds root "properties" (object listed) value
  /-- Every item of an array is valid. -/
  | items {schema value : Json} (h : ∀ item ∈ value.items, Validates root schema item) :
      Holds root "items" schema value
  /-- The value is valid for one of the alternatives. -/
  | anyOf {alternatives : List Json} {schema value : Json} (mem : schema ∈ alternatives)
      (valid : Validates root schema value) : Holds root "anyOf" (array alternatives) value
  /-- What a schema says for its reader asks nothing of the value. -/
  | remark {keyword : Text} {argument value : Json}
      (h : keyword ∈ (["$schema", "definitions", "title", "description"] : List Text)) :
      Holds root keyword argument value

end

/-- Every field of every object in a value is listed under `properties` of the schema that is
responsible for the object. Starting from the schema that describes the value, that is the
definition it refers to, the alternative that accepts the value, and for a part of the value the
schema of its field or of the items. -/
inductive Describes (root : Json) : Json → Json → Prop
  /-- There is no field to list. -/
  | plain {schema value : Json} (fields : value.fields = []) (items : value.items = []) :
      Describes root schema value
  | reference {schema value target : Json} {name : Text}
      (ref : schema.HasField "$ref" (string ("#/definitions/" ++ name)))
      (definition : root.definition? name = some target) (described : Describes root target value) :
      Describes root schema value
  | alternative {schema value chosen : Json} {alternatives : List Json}
      (anyOf : schema.HasField "anyOf" (.array alternatives)) (mem : chosen ∈ alternatives)
      (valid : Validates root chosen value) (described : Describes root chosen value) :
      Describes root schema value
  | array {schema each : Json} {items : List Json} (mem : schema.HasField "items" each)
      (described : ∀ item ∈ items, Describes root each item) : Describes root schema (.array items)
  | object {schema : Json} {listed fields : List (Text × Json)}
      (mem : schema.HasField "properties" (.object listed))
      (names : ∀ name part, (name, part) ∈ fields → name ∈ listed.map Prod.fst)
      (described : ∀ name part each, (name, part) ∈ fields →
        (Json.object listed).field? name = some each → Describes root each part) :
      Describes root schema (.object fields)

theorem Holds.minItems_le {root : Json} {n : Int} {items : List Json}
    (h : Holds root "minItems" (number n) (.array items)) : n ≤ items.length := by
  generalize hkeyword : ("minItems" : Text) = keyword at h
  cases h with
  | minItems h => exact h items rfl
  | items h => exact absurd hkeyword (by decide)
  | remark h =>
    rw [← hkeyword] at h
    exact absurd h (by decide)

/-! ## Objects, field by field -/

/-- Every field of a list has a property. -/
def AllFields (P : Text → Json → Prop) (fields : List (Text × Json)) : Prop :=
  ∀ name part, (name, part) ∈ fields → P name part

section
variable {P : Text → Json → Prop} {a b : List (Text × Json)} {name text : Text} {part : Json}

theorem allFields_nil : AllFields P [] := fun _ _ h => absurd h List.not_mem_nil

theorem AllFields.append (ha : AllFields P a) (hb : AllFields P b) : AllFields P (a ++ b) := by
  intro name part h
  rcases List.mem_append.mp h with h | h
  · exact ha name part h
  · exact hb name part h

theorem allFields_field (h : P name part) : AllFields P (field name part) := by
  intro name' part' h'
  obtain ⟨rfl, rfl⟩ := Prod.mk.inj (List.mem_singleton.mp h')
  exact h

theorem allFields_textField (h : P name (string text)) : AllFields P (textField name text) :=
  allFields_field h

theorem allFields_optionalField (h : P name (string text)) :
    AllFields P (optionalField name text) := by
  unfold optionalField
  split
  · exact allFields_nil
  · exact allFields_field h

end

/-- A value is valid when all the keywords of an object hold of it and none is a reference. -/
theorem validates_object {root value : Json} {keywords : List (Text × Json)}
    (h : AllFields (fun keyword argument =>
      keyword ≠ "$ref" ∧ Holds root keyword argument value) keywords) :
    Validates root (object keywords) value :=
  .keywords (fun target hmem => (h _ target hmem).1 rfl)
    fun keyword argument hmem => (h keyword argument hmem).2

end Json

namespace Schema

open Json (Validates Holds Describes)

theorem map_fst_fieldsToJson (properties : List (Text × Schema)) :
    (fieldsToJson properties).map Prod.fst = properties.map Prod.fst := by
  induction properties with
  | nil => rfl
  | cons p properties ih => rw [fieldsToJson, List.map_cons, List.map_cons, ih]

theorem field?_fieldsToJson (properties : List (Text × Schema)) (name : Text) :
    (Json.object (fieldsToJson properties)).field? name = (properties.lookup name).map toJson := by
  induction properties with
  | nil => rfl
  | cons p properties ih =>
    obtain ⟨key, schema⟩ := p
    rw [fieldsToJson, Json.field?, List.find?_cons, List.lookup_cons]
    by_cases h : key = name
    · simp [h]
    · rw [beq_false_of_ne h, beq_false_of_ne (Ne.symm h)]
      exact ih

theorem allToJson_eq_map (schemas : List Schema) : allToJson schemas = schemas.map toJson := by
  induction schemas with
  | nil => rfl
  | cons schema schemas ih => rw [allToJson, ih, List.map_cons]

/-- A value is valid for a schema, and every field in it is listed there. -/
structure Covers (root : Json) (schema : Schema) (value : Json) : Prop where
  validates : Validates root schema.toJson value
  describes : Describes root schema.toJson value

/-! ## The rules -/

section
variable {root : Json}

theorem covers_reference {name : Text} {schema : Schema} {value : Json}
    (hname : root.definition? name = some schema.toJson) (h : schema.Covers root value) :
    (reference name).Covers root value := by
  have hmem : (reference name).toJson.HasField "$ref" (.string ("#/definitions/" ++ name)) := by
    simp only [toJson]
    exact List.mem_singleton_self _
  exact ⟨.reference hmem hname h.validates, .reference hmem hname h.describes⟩

theorem allFields_type {value : Json} {name : Text} (h : name ∈ value.typeNames) :
    Json.AllFields (fun keyword argument => keyword ≠ "$ref" ∧ Holds root keyword argument value)
      (Json.textField "type" name) :=
  Json.allFields_textField ⟨by decide, .type h⟩

theorem allFields_description {value : Json} (description : Text) :
    Json.AllFields (fun keyword argument => keyword ≠ "$ref" ∧ Holds root keyword argument value)
      (Json.optionalField "description" description) :=
  Json.allFields_optionalField ⟨by decide, .remark (by decide)⟩

theorem covers_bool (description : Text) (b : Bool) : (bool description).Covers root (.bool b) := by
  refine ⟨?_, .plain rfl rfl⟩
  simp only [toJson]
  refine Json.validates_object (.append ?_ (allFields_description description))
  exact allFields_type (List.mem_singleton_self _)

theorem covers_string {choices : List Text} {t : Text} (h : choices = [] ∨ t ∈ choices)
    (description : Text) : (string description choices).Covers root (.string t) := by
  refine ⟨?_, .plain rfl rfl⟩
  simp only [toJson]
  refine Json.validates_object (.append (.append ?_ ?_) (allFields_description description))
  · exact allFields_type (List.mem_singleton_self _)
  · split
    · exact Json.allFields_nil
    next hne =>
      -- there are choices, so the text is one of them
      refine Json.allFields_field ⟨by decide, .enum (List.mem_map_of_mem ?_)⟩
      exact h.resolve_left fun hnil => hne (by rw [hnil]; rfl)

theorem covers_text (description t : Text) : (text description).Covers root (.string t) :=
  covers_string (Or.inl rfl) description

theorem covers_array {schema : Schema} {items : List Json}
    (h : ∀ item ∈ items, schema.Covers root item) (description : Text) :
    (array description schema).Covers root (.array items) := by
  constructor
  · simp only [toJson]
    refine Json.validates_object (.append (.append ?_ ?_) (allFields_description description))
    · exact allFields_type (List.mem_singleton_self _)
    · exact Json.allFields_field ⟨by decide, .items fun item hitem => (h item hitem).validates⟩
  · refine .array ?_ fun item hitem => (h item hitem).describes
    simp [Json.HasField, toJson, Json.fields, Json.field]

theorem covers_anyOf {alternatives : List Schema} {schema : Schema} {value : Json}
    (hmem : schema ∈ alternatives) (h : schema.Covers root value) (description : Text) :
    (anyOf description alternatives).Covers root value := by
  have hjson : schema.toJson ∈ allToJson alternatives := by
    rw [allToJson_eq_map]
    exact List.mem_map_of_mem hmem
  constructor
  · simp only [toJson]
    refine Json.validates_object (.append (allFields_description description) ?_)
    exact Json.allFields_field ⟨by decide, .anyOf hjson h.validates⟩
  · refine .alternative ?_ hjson h.validates h.describes
    simp [Json.HasField, toJson, Json.fields, Json.field]

/-- The properties of a schema list a field with a schema that covers it. -/
def ListsField (root : Json) (properties : List (Text × Schema)) (name : Text) (part : Json) :
    Prop :=
  ∃ schema, properties.lookup name = some schema ∧ schema.Covers root part

theorem covers_object {properties : List (Text × Schema)} {required : List Text}
    {fields : List (Text × Json)} (hrequired : ∀ name ∈ required, name ∈ fields.map Prod.fst)
    (h : Json.AllFields (ListsField root properties) fields) :
    (object properties required).Covers root (.object fields) := by
  -- The schema that is looked up for a field is the one that covers it.
  have hlisted : ∀ name part each, (name, part) ∈ fields →
      (Json.object (fieldsToJson properties)).field? name = some each →
        ∃ schema : Schema, each = schema.toJson ∧ schema.Covers root part := by
    intro name part each hmem heach
    obtain ⟨schema, hschema, hcovers⟩ := h name part hmem
    rw [field?_fieldsToJson, hschema] at heach
    exact ⟨schema, (Option.some.inj heach).symm, hcovers⟩
  constructor
  · simp only [toJson]
    refine Json.validates_object (.append (.append ?_ ?_) ?_)
    · exact allFields_type (List.mem_singleton_self _)
    · refine Json.allFields_field ⟨by decide, .properties ?_⟩
      intro name part each hmem heach
      obtain ⟨schema, rfl, hcovers⟩ := hlisted name part each hmem heach
      exact hcovers.validates
    · refine Json.allFields_field ⟨by decide, .required ?_⟩
      intro fields' heq name hname
      obtain rfl := Json.object.inj heq
      obtain ⟨name', hname', hstring⟩ := List.mem_map.mp hname
      obtain rfl := Json.string.inj hstring
      exact hrequired _ hname'
  · have hproperties : (object properties required).toJson.HasField "properties"
        (.object (fieldsToJson properties)) := by
      simp [Json.HasField, toJson, Json.fields, Json.field]
    refine .object hproperties ?_ ?_
    · intro name part hmem
      obtain ⟨schema, hschema, -⟩ := h name part hmem
      obtain ⟨before, after, rfl, -⟩ := List.lookup_eq_some_iff.mp hschema
      rw [map_fst_fieldsToJson, List.map_append]
      exact List.mem_append_right _ (List.mem_cons_self ..)
    · intro name part each hmem heach
      obtain ⟨schema, rfl, hcovers⟩ := hlisted name part each hmem heach
      exact hcovers.describes

end

end Schema

namespace DocumentSchema

open Json (Validates Describes)

section
variable {root : Json} {s : DocumentSchema}

/-- What the name of a definition stands for. -/
theorem definition?_toJson (s : DocumentSchema) (name : Text) :
    s.toJson.definition? name = (s.definitions.lookup name).map Schema.toJson := by
  show (Json.object (Schema.fieldsToJson s.definitions)).field? name = _
  exact Schema.field?_fieldsToJson _ _

/-- A list is valid for the schema of a document exactly when it is long enough, given that the
schema of the items covers its items. -/
theorem validates_array_iff {items : List Json} (h : ∀ item ∈ items, s.items.Covers root item) :
    Validates root s.toJson (.array items) ↔ s.minItems ≤ items.length := by
  constructor
  · intro hvalid
    cases hvalid with
    | reference ref _ _ =>
      simp +decide [Json.HasField, toJson, Json.fields, Json.textField, Json.field] at ref
    | keywords _ holds =>
      have hmin := (holds "minItems" (.number s.minItems) (List.mem_append_right _
        (List.mem_singleton_self _))).minItems_le
      exact Int.ofNat_le.mp hmin
  · intro hlength
    refine Json.validates_object
      (.append (.append (.append (.append (.append (.append ?_ ?_) ?_) ?_) ?_) ?_) ?_)
    · exact Schema.allFields_type (List.mem_singleton_self _)
    · exact Json.allFields_field ⟨by decide, .items fun item hitem => (h item hitem).validates⟩
    · exact Json.allFields_textField ⟨by decide, .remark (by decide)⟩
    · exact Json.allFields_field ⟨by decide, .remark (by decide)⟩
    · exact Json.allFields_textField ⟨by decide, .remark (by decide)⟩
    · exact Json.allFields_textField ⟨by decide, .remark (by decide)⟩
    · refine Json.allFields_field ⟨by decide, .minItems ?_⟩
      intro items' heq
      rw [← Json.array.inj heq]
      exact Int.ofNat_le.mpr hlength

theorem describes_array {items : List Json} (h : ∀ item ∈ items, s.items.Covers root item) :
    Describes root s.toJson (.array items) := by
  refine .array ?_ fun item hitem => (h item hitem).describes
  simp [Json.HasField, toJson, Json.fields, Json.field]

end

end DocumentSchema

end DocBlock
