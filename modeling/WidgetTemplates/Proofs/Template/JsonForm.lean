import WidgetTemplates.Proofs.Json.ReadBack
import WidgetTemplates.Proofs.Script.Subexpression
import WidgetTemplates.Proofs.Template.Occurrence
import WidgetTemplates.Template.NodeJson

/-!
# The JSON form is lossless

Every expression, statement and node is decoded from its JSON form. The three are tagged in different ways: a node and a
statement carry their tag among their fields, an expression beside its value, which the literal `null` has none of. An
absent attribute value is the JSON `null` and so differs from the literal.

Decoding follows encoding constructor by constructor, by induction over the expression or the forest. The JSON form of
a forest is exact, so its text is read back too, by every reader that lets containers nest that deep.
-/

namespace WidgetTemplates

open Json (Exact Members)

/-! ## Fields -/

namespace Json

/-- What is encoded is decoded again. -/
def Decodes {α : Type} (encode : α → Json) (decode : Json → Option α) : Prop := ∀ a, decode (encode a) = some a

variable {α : Type} {encode : α → Json} {decode : Json → Option α}

/-- A list whose items are read back is read back. -/
theorem asList?_map (h : Decodes encode decode) (items : List α) :
    asList? decode (.array (items.map encode)) = some items := by
  rw [asList?]
  induction items with
  | nil => rfl
  | cons a items ih => simp [h a, ih]

/-- What is absent is told from what is there, if nothing is encoded as `null`. -/
theorem asOptional?_optional (h : Decodes encode decode) (present : ∀ a, encode a ≠ .null) (o : Option α) :
    asOptional? decode (.optional encode o) = some o := by
  rcases o with _ | a
  · rfl
  · rw [optional, asOptional?, h a, Option.map_some]
    exact present a

/-- A number of 32 bits is read back. -/
theorem asWord32?_nat (n : UInt32) : asWord32? (.nat n.toNat) = some n := by
  have hbound := n.toNat_lt
  have hword : (0 : Int) ≤ n.toNat ∧ (n.toNat : Int) < 0x100000000 := by omega
  rw [nat, asWord32?, if_pos hword, Int.toNat_natCast, Nat.toUInt32_eq, UInt32.ofNat_toNat]

namespace Fields

variable {name key : String} {value : Json} {rest : Members}

/-- The first field is found under its name. -/
theorem get?_cons_self : (named ((name, value) :: rest)).get? name = some value := by
  rw [get?, Members.get?, if_pos (beq_self_eq_true name)]

/-- Under any other name a field is looked up behind the first one. -/
theorem get?_cons_ne (h : (key == name) = false) :
    (named ((key, value) :: rest)).get? name = (named rest).get? name := by
  rw [get?, Members.get?, h, if_neg Bool.false_ne_true, get?]

@[simp] theorem required?_cons_self : (named ((name, value) :: rest)).required? name decode = decode value := by
  rw [required?, get?_cons_self, Option.bind_eq_bind, Option.bind_some]

@[simp] theorem required?_cons_ne (h : (key == name) = false) :
    (named ((key, value) :: rest)).required? name decode = (named rest).required? name decode := by
  rw [required?, get?_cons_ne h, required?]

@[simp] theorem withDefault?_cons_self {a : α} :
    (named ((name, value) :: rest)).withDefault? name a decode = decode value := by
  rw [withDefault?, get?_cons_self]

@[simp] theorem withDefault?_cons_ne {a : α} (h : (key == name) = false) :
    (named ((key, value) :: rest)).withDefault? name a decode = (named rest).withDefault? name a decode := by
  rw [withDefault?, get?_cons_ne h, withDefault?]

@[simp] theorem nullable?_cons_self :
    (named ((name, value) :: rest)).nullable? name decode = asOptional? decode value := by
  simp [nullable?, get?_cons_self]

@[simp] theorem nullable?_cons_ne (h : (key == name) = false) :
    (named ((key, value) :: rest)).nullable? name decode = (named rest).nullable? name decode := by
  have hget : (named ((key, value) :: rest)).get? name = (named rest).get? name := get?_cons_ne h
  unfold nullable?
  rw [hget]
  rcases (named rest).get? name with _ | _ <;> rfl

end Fields

end Json

namespace Script

namespace Expr

/-! ## Expressions -/

/-- A value with a tag is read as one of that kind. -/
theorem ofJson?_tagged (kind : String) (value : Json) : ofJson? (tagged kind value) = ofKind? kind value := by
  simp [tagged, ofJson?, untag?, ofTagged?, Members.get?]

/-- Expressions that are read back one by one are read back as a list. -/
theorem ofJsonList?_toJsonList {items : List Expr} (h : ∀ e ∈ items, ofJson? e.toJson = some e) :
    ofJsonList? (toJsonList items) = some items := by
  induction items with
  | nil => simp [toJsonList, ofJsonList?]
  | cons e items ih =>
    obtain ⟨he, hitems⟩ := List.forall_mem_cons.mp h
    simp [toJsonList, ofJsonList?, he, ih hitems]

/-- An expression is decoded from its JSON form. -/
theorem ofJson?_toJson (e : Expr) : ofJson? e.toJson = some e := by
  induction e using exprInduction with
  | ident name => simp [toJson, ofJson?_tagged, ofKind?]
  | member object property ih => simp [toJson, ofJson?_tagged, ofKind?, ofMember?, ih]
  | call callee args ihcallee ihargs =>
    simp [toJson, ofJson?_tagged, ofKind?, ofCall?, ihcallee, ofJsonList?_toJsonList ihargs]
  | str value => simp [toJson, ofJson?_tagged, ofKind?]
  | null => simp [toJson, ofJson?, untag?, ofTagged?, Members.get?]
  | array items ih => simp [toJson, ofJson?_tagged, ofKind?, ofJsonList?_toJsonList ih]
  | concat operands ih => simp [toJson, ofJson?_tagged, ofKind?, ofJsonList?_toJsonList ih]
  | raw code => simp [toJson, ofJson?_tagged, ofKind?]

end Expr

/-! ## Statements -/

/-- A statement is decoded from its JSON form. -/
theorem Stmt.ofJson?_toJson (s : Stmt) : ofJson? s.toJson = some s := by
  cases s with
  | var name init =>
    simp [toJson, ofJson?, ofFields?, Members.get?, Json.fields?, Json.asString?, Expr.ofJson?_toJson]
  | expr e =>
    simp [toJson, ofJson?, ofFields?, Members.get?, Json.fields?, Expr.ofJson?_toJson]

end Script

namespace Template

open Script (Expr Stmt)

/-- Locations are read back. -/
theorem Location.decodes : Json.Decodes toJson ofJson? := by
  intro l
  -- by rewriting only: a proof that computes would count up to the bound of a word
  rw [toJson, ofJson?, Json.fields?, Option.bind_eq_bind, Option.bind_some, Json.Fields.required?_cons_self,
    Json.asWord32?_nat, Option.bind_eq_bind, Option.bind_some, Json.Fields.required?_cons_ne (by decide),
    Json.Fields.required?_cons_self, Json.asWord32?_nat]
  rfl

/-- Attributes are read back. -/
theorem Attribute.decodes : Json.Decodes toJson ofJson? := by
  intro a
  have hpresent : ∀ e : Expr, e.toJson ≠ .null := by
    intro e
    cases e <;> exact nofun
  simp [toJson, ofJson?, Json.fields?, Json.asString?,
    Json.asOptional?_optional Expr.ofJson?_toJson hpresent]

/-- Widgets are read back. -/
theorem Binding.decodes : Json.Decodes toJson ofJson? := by
  intro b
  simp [toJson, ofJson?, Json.fields?, Expr.ofJson?_toJson]

namespace Node

/-! ## Nodes -/

/-- The fields of an element are decoded. -/
theorem elementOf?_toMembers (el : Element) (children : List Json) :
    elementOf? (.named (el.toMembers children)) = some el := by
  have hpresent : ∀ b : Binding, b.toJson ≠ .null := fun _ => nofun
  simp [elementOf?, Element.toMembers, Json.asString?, Json.asBool?, Json.asList?_map Attribute.decodes,
    Json.asList?_map Stmt.ofJson?_toJson, Location.decodes _, Json.asOptional?_optional Binding.decodes hpresent]

/-- The type of a node is no field of an element. -/
theorem elementOf?_cons_type (type : Json) (members : Members) :
    elementOf? (.named (("type", type) :: members)) = elementOf? (.named members) := by
  simp [elementOf?]

section Inner

variable {children : List Node} (inside : ofJsonList? (toJsonList children) = some children)

include inside

/-- An element is read back if its children are. -/
theorem ofJson?_element (el : Element) : ofJson? (toJson (.element el children)) = some (.element el children) := by
  have hmembers : innerOfMembers? "children" (("type", .string "element") :: el.toMembers (toJsonList children)) =
      some children := by
    simp [Element.toMembers, innerOfMembers?, ofItems?, inside]
  have hown := elementOf?_toMembers el (toJsonList children)
  rw [toJson]
  generalize el.toMembers (toJsonList children) = members at hmembers hown ⊢
  simp [ofJson?, typeOf?, Members.get?, ofFields?, Json.fields?, innerField, elementOf?_cons_type, hown, hmembers]

/-- A loop is read back if its body is. -/
theorem ofJson?_loop (item : String) (source : Expr) {location : Location} {place : Json}
    (h : Location.ofJson? place = some location) :
    ofJson? (.object [("type", .string "loop"), ("item", .string item), ("source", source.toJson),
      ("body", .array (toJsonList children)), ("location", place)]) = some (.loop item source children location) := by
  simp [ofJson?, typeOf?, Members.get?, ofFields?, Json.fields?, Json.asString?, innerField, innerOfMembers?,
    ofItems?, inside, Expr.ofJson?_toJson, h]

end Inner

section Place

variable {location : Location} {place : Json} (h : Location.ofJson? place = some location)

include h

/-- A text is read back. -/
theorem ofJson?_text (value : String) :
    ofJson? (.object [("type", .string "text"), ("value", .string value), ("location", place)]) =
      some (.text value location) := by
  simp [ofJson?, typeOf?, Members.get?, ofFields?, Json.fields?, Json.asString?, h]

/-- An expression that is a node is read back. -/
theorem ofJson?_expression (expr : Expr) :
    ofJson? (.object [("type", .string "expression"), ("expression", expr.toJson), ("location", place)]) =
      some (.expression expr location) := by
  simp [ofJson?, typeOf?, Members.get?, ofFields?, Json.fields?, Expr.ofJson?_toJson, h]

end Place

/-- A statement that is a node is read back. -/
theorem ofJson?_code (stmt : Stmt) : ofJson? (toJson (.code stmt)) = some (.code stmt) := by
  simp [toJson, ofJson?, typeOf?, Members.get?, ofFields?, Json.fields?, Stmt.ofJson?_toJson]

/-- A forest is decoded from the JSON forms of its nodes. -/
theorem ofJsonList?_toJsonList (nodes : List Node) : ofJsonList? (toJsonList nodes) = some nodes := by
  have hcons : ∀ {node rest}, ofJson? (toJson node) = some node → ofJsonList? (toJsonList rest) = some rest →
      ofJsonList? (toJsonList (node :: rest)) = some (node :: rest) := by
    intro node rest hnode hrest
    rw [toJsonList, ofJsonList?, hnode, hrest]
    rfl
  induction nodes using forestInduction with
  | nil => rw [toJsonList, ofJsonList?]
  | element el children rest inside after => exact hcons (ofJson?_element inside el) after
  | loop item source body location rest inside after =>
    exact hcons (ofJson?_loop inside item source (Location.decodes location)) after
  | text value location rest after => exact hcons (ofJson?_text (Location.decodes location) value) after
  | expression expr location rest after => exact hcons (ofJson?_expression (Location.decodes location) expr) after
  | code stmt rest after => exact hcons (ofJson?_code stmt) after

/-- An element outside a tree is decoded too. -/
theorem elementOfJson?_toJson (el : Element) (children : List Node) :
    elementOfJson? (el.toJson children) = some (el, children) := by
  have hchildren : (Json.Fields.named (el.toMembers (toJsonList children))).required? "children" ofItems? =
      some children := by
    simp [Element.toMembers, ofItems?, ofJsonList?_toJsonList children]
  rw [elementOfJson?, Element.toJson, Json.fields?, Option.bind_eq_bind, Option.bind_some, elementOf?_toMembers,
    Option.bind_eq_bind, Option.bind_some, hchildren]
  rfl

end Node

end Template

/-! ## Exactness -/

namespace Json

variable {α : Type} {encode : α → Json}

/-- A list of exact items is exact. -/
theorem exact_map (h : ∀ a, Exact (encode a)) (items : List α) : Exact (.array (items.map encode)) :=
  .array _ (List.forall_mem_map.mpr fun a _ => h a)

/-- An optional value is exact if it is so where it is there. -/
theorem exact_optional (h : ∀ a, Exact (encode a)) (o : Option α) : Exact (.optional encode o) := by
  rcases o with _ | a
  · exact .null
  · exact h a

end Json

namespace Script

namespace Expr

/-- A value with a tag is exact if the value is. -/
theorem exact_tagged (kind : String) {value : Json} (h : Exact value) : Exact (tagged kind value) :=
  .object _ (by simp) (by simp [Exact.string, h])

/-- The form of a list of expressions is exact if theirs are. -/
theorem exact_toJsonList {items : List Expr} (h : ∀ e ∈ items, Exact e.toJson) : Exact (.array (toJsonList items)) := by
  refine .array _ ?_
  induction items with
  | nil => exact nofun
  | cons e items ih =>
    obtain ⟨he, hitems⟩ := List.forall_mem_cons.mp h
    rw [toJsonList]
    exact List.forall_mem_cons.mpr ⟨he, ih hitems⟩

/-- The form of an expression is exact. -/
theorem exact_toJson (e : Expr) : Exact e.toJson := by
  induction e using exprInduction with
  | ident name => exact exact_tagged _ (.string name)
  | member object property ih => exact exact_tagged _ (.array _ (by simp [Exact.string, ih]))
  | call callee args ihcallee ihargs => exact exact_tagged _ (.array _ (by simp [ihcallee, exact_toJsonList ihargs]))
  | str value => exact exact_tagged _ (.string value)
  | null => exact .object _ (by simp) (by simp [Exact.string])
  | array items ih => exact exact_tagged _ (exact_toJsonList ih)
  | concat operands ih => exact exact_tagged _ (exact_toJsonList ih)
  | raw code => exact exact_tagged _ (.string code)

end Expr

/-- The form of a statement is exact. -/
theorem Stmt.exact_toJson (s : Stmt) : Exact s.toJson := by
  cases s with
  | var name init => exact .object _ (by simp) (by simp [Exact.string, init.exact_toJson])
  | expr e => exact .object _ (by simp) (by simp [Exact.string, e.exact_toJson])

end Script

namespace Template

open Script (Expr Stmt)

/-- The numbers in the JSON form of a place fit a word. -/
theorem Location.exact_toJson (l : Location) : Exact l.toJson := by
  have hword : ∀ n : UInt32, Exact (.nat n.toNat) := by
    intro n
    have hbound := n.toNat_lt
    exact .int _ (by omega) (by rw [Json.Reader.wordMax]; omega)
  exact .object _ (by simp) (by simp [hword])

/-- The form of an attribute is exact. -/
theorem Attribute.exact_toJson (a : Attribute) : Exact a.toJson :=
  .object _ (by simp) (by simp [Exact.string, Json.exact_optional Expr.exact_toJson])

/-- The form of a widget is exact. -/
theorem Binding.exact_toJson (b : Binding) : Exact b.toJson :=
  .object _ (by simp) (by simp [Expr.exact_toJson])

namespace Node

/-- The form of a forest is exact. -/
theorem exact_toJsonList (nodes : List Node) : Exact (.array (toJsonList nodes)) := by
  refine .array _ ?_
  induction nodes using forestInduction with
  | nil => rw [toJsonList]; exact nofun
  | element el children rest inside after =>
    rw [toJsonList]
    refine List.forall_mem_cons.mpr ⟨?_, after⟩
    rw [toJson]
    refine .object _ (by simp [Element.toMembers]) ?_
    simp [Element.toMembers, Exact.string, Exact.bool, Exact.array _ inside, el.location.exact_toJson,
      Json.exact_map Attribute.exact_toJson, Json.exact_map Stmt.exact_toJson, Json.exact_optional Binding.exact_toJson]
  | loop item source body location rest inside after =>
    rw [toJsonList]
    refine List.forall_mem_cons.mpr ⟨?_, after⟩
    rw [toJson]
    exact .object _ (by simp)
      (by simp [Exact.string, Exact.array _ inside, source.exact_toJson, location.exact_toJson])
  | text value location rest after =>
    rw [toJsonList]
    refine List.forall_mem_cons.mpr ⟨?_, after⟩
    exact .object _ (by simp) (by simp [Exact.string, location.exact_toJson])
  | expression expr location rest after =>
    rw [toJsonList]
    refine List.forall_mem_cons.mpr ⟨?_, after⟩
    exact .object _ (by simp) (by simp [Exact.string, expr.exact_toJson, location.exact_toJson])
  | code stmt rest after =>
    rw [toJsonList]
    refine List.forall_mem_cons.mpr ⟨?_, after⟩
    exact .object _ (by simp) (by simp [Exact.string, stmt.exact_toJson])

/-- **The JSON form of a forest is lossless.** The forest is decoded from its JSON form, and also from the text of that,
by every reader that lets containers nest as deep as they do there. -/
theorem json_form_lossless (nodes : List Node) :
    let json := Json.array (toJsonList nodes)
    ofItems? json = some nodes ∧
      ∀ depth, Json.nesting json < depth → (Json.readWithin? depth (Json.print json) >>= ofItems?) = some nodes := by
  intro json
  have hdecode : ofItems? json = some nodes := by rw [ofItems?, ofJsonList?_toJsonList]
  refine ⟨hdecode, fun depth shallow => ?_⟩
  rw [Json.readWithin?_print (exact_toJsonList nodes) shallow, Option.bind_eq_bind, Option.bind_some, hdecode]

/-- An absent value, the literal `null` and an empty text stay apart, also below a loop. -/
theorem absent_and_null_decoded :
    let nodes : List Node :=
      [.loop "item" (.ident "items")
        [.element { tag := "p", attributes := [⟨"a", none⟩, ⟨"b", some .null⟩, ⟨"c", some (.str "")⟩],
                    before := [.var "x" (.concat [.null, .raw "1"])], widget := some ⟨.ident "w", .null⟩ }
          [.code (.expr (.call (.ident "f") [.array []])), .text "" ⟨2, 4294967295⟩]] .start]
    Json.nesting (.array (toJsonList nodes)) < 128 ∧
      (Json.read? (Json.print (.array (toJsonList nodes))) >>= ofItems?) = some nodes := by
  intro nodes
  have hshallow : Json.nesting (.array (toJsonList nodes)) < 128 := by decide +kernel
  have hread := (json_form_lossless nodes).2 128 hshallow
  exact ⟨hshallow, by rw [Json.read?_eq_readWithin?, hread]⟩

end Node

end Template

end WidgetTemplates
