import Mathlib.Data.List.Infix
import WidgetTemplates.Page.Bootstrap
import WidgetTemplates.Proofs.Json.OneLine
import WidgetTemplates.Proofs.Page.ScriptJson
import WidgetTemplates.Proofs.Script.StringLiteral

/-!
# The ids that bootstrap code lists

Bootstrap code assigns states and configurations, each on a line of its own, and then lists the ids of the widgets,
either in a call or in a marker behind the script element. `writtenIds?` and `returnedIds?` read the ids from the texts
as they stand on the page and as they are returned. They know the forms of a call and of a marker and nothing of the
functions that write them. `writtenIds?_bootstrapText` and `returnedIds?_code` say that all ids come back in order.

An id may have any characters but commas. So a list does not end where its quotes seem to end, but at the end of the
text, and it starts where a line does: no assignment starts like a call or like the end of a script element
(`behindOpening?_assignments`).
-/

namespace WidgetTemplates.Page

/-! ## Lists of ids -/

/-- An id that can stand in a comma-separated list. -/
def Listable (id : String) : Prop := id ≠ "" ∧ ',' ∉ id.toList

/-- The ids in a comma-separated list. -/
def listedIds (text : String) : List String :=
  if text.isEmpty then [] else (text.toList.splitOn ',').map String.ofList

/-- The characters of a comma-separated list. -/
theorem toList_joinWith (ids : List String) :
    (Text.joinWith "," ids).toList = [','].intercalate (ids.map String.toList) := by
  induction ids with
  | nil => rfl
  | cons id rest ih =>
    cases rest with
    | nil => simp [Text.joinWith]
    | cons next rest => simp [Text.joinWith, ih, List.intercalate]

/-- A list of ids is read back from its text. -/
theorem listedIds_joinWith {ids : List String} (h : ∀ id ∈ ids, Listable id) :
    listedIds (Text.joinWith "," ids) = ids := by
  cases ids with
  | nil => rfl
  | cons id rest =>
    have hne : Text.joinWith "," (id :: rest) ≠ "" := by
      have hid := (h id (by simp)).1
      cases rest <;> simp [Text.joinWith, hid]
    have hcomma : ∀ l ∈ (id :: rest).map String.toList, ',' ∉ l := by
      intro l hl
      obtain ⟨id', hid', rfl⟩ := List.mem_map.mp hl
      exact (h id' hid').2
    rw [listedIds, if_neg (by simpa using hne), toList_joinWith,
      List.splitOn_intercalate _ hcomma (by simp)]
    simp

/-! ## Readers -/

/-- What follows the text `opening` where that stands at the start of a line for the first time. `fresh` says whether
the text begins with a line. -/
def behindOpening? (opening : List Char) (fresh : Bool) : List Char → Option (List Char)
  | [] => none
  | c :: rest =>
    match if fresh then (c :: rest).dropPrefix? opening else none with
    | some list => some list
    | none => behindOpening? opening (c == '\n') rest

/-- The ids between `opening` at the start of a line and `closing` at the end of the text. -/
def idsBetween? (opening closing : String) (text : List Char) : Option (List String) :=
  ((behindOpening? opening.toList true text).bind (·.dropSuffix? closing.toList)).map fun list =>
    listedIds (String.ofList list)

/-- What follows the start tag of a script element, which may have a nonce. -/
def behindScriptTag? (text : List Char) : Option (List Char) := do
  let attrs ← text.dropPrefix? "<script".toList
  match attrs.dropPrefix? " nonce=\"".toList with
  | none => attrs.dropPrefix? ['>']
  | some value =>
    let (_, rest) ← Script.literalText? value
    rest.dropPrefix? ['>']

/-- The ids that a text lists which is written to a page: those of the call in a script element, or else those of the
marker behind it, and none when nothing is written. -/
def writtenIds? (text : List Char) : Option (List String) :=
  if text.isEmpty then some []
  else do
    let body ← behindScriptTag? text
    (idsBetween? "$markoWidgets(\"" "\")</script>" body).or
      (idsBetween? "</script><noscript id=\"markoWidgets\" data-ids=\"" "\"></noscript>" body)

/-- The ids that code lists which is returned: those of the call at its end. -/
def returnedIds? (text : List Char) : Option (List String) := idsBetween? "$markoWidgets(\"" "\");" text

/-! ## Lines -/

section Lines

variable {opening text rest list : List Char}

/-- What follows the beginning of a text. -/
theorem dropPrefix?_append (start rest : List Char) : (start ++ rest).dropPrefix? start = some rest :=
  List.dropPrefix?_append_of_beq rest (beq_self_eq_true start)

/-- A text that begins with another character does not begin with `start`. -/
theorem dropPrefix?_of_ne {c d : Char} (h : c ≠ d) (start rest : List Char) :
    (c :: rest).dropPrefix? (d :: start) = none := by
  rw [List.dropPrefix?, if_neg (by simpa using h)]

/-- Within a line nothing is looked for. -/
theorem behindOpening?_within (h : '\n' ∉ text) :
    behindOpening? opening false (text ++ '\n' :: rest) = behindOpening? opening true rest := by
  induction text with
  | nil => rfl
  | cons c text ih =>
    rw [List.mem_cons, not_or] at h
    have hc : (c == '\n') = false := beq_false_of_ne (Ne.symm h.1)
    rw [List.cons_append, behindOpening?, if_neg Bool.false_ne_true, hc]
    exact ih h.2

/-- A line that begins otherwise is passed over. -/
theorem behindOpening?_line {c d : Char} (differs : c ≠ d) (hc : c ≠ '\n') (h : '\n' ∉ text) :
    behindOpening? (d :: opening) true (c :: (text ++ '\n' :: rest)) = behindOpening? (d :: opening) true rest := by
  rw [behindOpening?, if_pos rfl, dropPrefix?_of_ne differs, beq_false_of_ne hc]
  exact behindOpening?_within h

/-- The opening is found where it stands. -/
theorem behindOpening?_append (h : opening ≠ []) (list : List Char) :
    behindOpening? opening true (opening ++ list) = some list := by
  obtain ⟨c, more, rfl⟩ := List.exists_cons_of_ne_nil h
  have hdrop := dropPrefix?_append (c :: more) list
  rw [List.cons_append] at hdrop
  rw [List.cons_append, behindOpening?, if_pos rfl, hdrop]

/-- What is found is the end of the text. -/
theorem suffix_of_behindOpening? {fresh : Bool} (h : behindOpening? opening fresh text = some list) :
    list <:+ text := by
  induction text generalizing fresh with
  | nil => exact nomatch h
  | cons c rest ih =>
    rw [behindOpening?] at h
    split at h
    · next found hfound =>
      obtain rfl := Option.some.inj h
      obtain ⟨-, hdrop⟩ := Option.ite_none_right_eq_some.mp hfound
      obtain ⟨front, hsplit, -⟩ := List.dropPrefix?_eq_some_iff.mp hdrop
      exact hsplit ▸ List.suffix_append front _
    · exact (ih h).trans (List.suffix_cons c rest)

end Lines

/-! ## Assignments -/

/-- JSON in a script has no line break: printing adds none, and neither does what is escaped. -/
theorem newline_notMem_scriptJson (entries : Json.Members) : '\n' ∉ (scriptJson entries).toList := by
  rw [scriptJson, Text.expand, String.toList_ofList, List.mem_flatMap]
  rintro ⟨c, hc, hline⟩
  rcases scriptChar_cases c with hspecial | ⟨hsame, -⟩
  · have hnone : '\n' ∉ scriptChar c := by rcases hspecial with rfl | rfl | rfl <;> decide
    exact hnone hline
  · rw [hsame, List.mem_singleton] at hline
    exact Json.newline_notMem_print _ (hline ▸ hc)

/-- The assignment of a store is a line that starts with a parenthesis, or nothing. -/
theorem line_of_assignment {target : Target} (known : target = .state ∨ target = .config) {entries : Json.Members}
    {code : String} (h : assignment Codec.json target entries = .ok code) :
    code = "" ∨ ∃ text, '\n' ∉ text ∧ code.toList = '(' :: (text ++ ['\n']) := by
  rw [assignment] at h
  split at h
  · exact .inl (Except.ok.inj h).symm
  · have hjson := newline_notMem_scriptJson entries
    have hcode : target.assign (scriptJson entries) ++ ";\n" = code := Except.ok.inj h
    have hadditive : target.additive = true ∧ '\n' ∉ target.name.toList := by
      rcases known with rfl | rfl <;> exact ⟨rfl, by decide⟩
    refine .inr ⟨(target.assign (scriptJson entries)).toList.drop 1 ++ [';'], ?_, ?_⟩
    · rw [List.mem_append, not_or]
      refine ⟨fun hin => ?_, by decide⟩
      have hin := List.mem_of_mem_drop hin
      rw [Target.assign, if_pos hadditive.1] at hin
      simp [hadditive.2, hjson] at hin
    · rw [← hcode, Target.assign, if_pos hadditive.1]
      simp

/-- No list of ids is found before the assignments end. -/
theorem behindOpening?_assignments {c : Collected} {code : String} (h : assignments Codec.json c = .ok code)
    {d : Char} (other : '(' ≠ d) (opening rest : List Char) :
    behindOpening? (d :: opening) true (code.toList ++ rest) = behindOpening? (d :: opening) true rest := by
  have hpassed : ∀ {target : Target}, target = .state ∨ target = .config → ∀ {entries : Json.Members} {code : String},
      assignment Codec.json target entries = .ok code → ∀ rest,
      behindOpening? (d :: opening) true (code.toList ++ rest) = behindOpening? (d :: opening) true rest := by
    intro target known entries code hcode rest
    rcases line_of_assignment known hcode with rfl | ⟨text, hline, htext⟩
    · rfl
    · rw [htext, List.cons_append, List.append_assoc]
      exact behindOpening?_line other (by decide) hline
  rw [assignments] at h
  rcases hstate : assignment Codec.json .state c.state with _ | state
  · rw [hstate] at h
    exact nomatch h
  rcases hconfig : assignment Codec.json .config c.config with _ | config
  · rw [hstate, hconfig] at h
    exact nomatch h
  rw [hstate, hconfig] at h
  obtain rfl : state ++ config = code := Except.ok.inj h
  rw [String.toList_append, List.append_assoc, hpassed (.inl rfl) hstate, hpassed (.inr rfl) hconfig]

/-! ## Bootstrap code -/

-- Where rewriting would compare texts with literals, the parts are named instead.
/-- The characters of three texts in a row. -/
theorem toList_append_append (s t u : String) : (s ++ t ++ u).toList = s.toList ++ (t.toList ++ u.toList) := by
  rw [String.toList_append, String.toList_append, List.append_assoc]

/-- The characters of a call. -/
theorem toList_startCall (ids : String) :
    (startCall ids).toList = "$markoWidgets(\"".toList ++ (ids.toList ++ "\")".toList) :=
  toList_append_append "$markoWidgets(\"" ids "\")"

/-- The characters of a marker. -/
theorem toList_marker (ids : String) : (marker ids).toList =
    "<noscript id=\"markoWidgets\" data-ids=\"".toList ++ (ids.toList ++ "\"></noscript>".toList) :=
  toList_append_append "<noscript id=\"markoWidgets\" data-ids=\"" ids "\"></noscript>"

/-- The characters of a script element. -/
theorem toList_scriptElement (nonce code : String) : (scriptElement nonce code).toList =
    "<script".toList ++ (nonce.toList ++ '>' :: (code.toList ++ "</script>".toList)) := by
  have houter := toList_append_append ("<script" ++ nonce ++ ">") code "</script>"
  have hinner := toList_append_append "<script" nonce ">"
  rw [scriptElement, houter, hinner, List.append_assoc, List.append_assoc]
  rfl

section Batch

variable {c : Collected} {code : String}

/-- The ids behind the assignments are read. -/
theorem idsBetween?_list (hcode : assignments Codec.json c = .ok code) (listable : ∀ id ∈ c.ids, Listable id)
    (opening closing : String) (other : ∃ d, opening.toList.head? = some d ∧ '(' ≠ d) :
    idsBetween? opening closing (code.toList ++ (opening.toList ++ (c.idText.toList ++ closing.toList))) =
      some c.ids := by
  obtain ⟨d, hd, other⟩ := other
  obtain ⟨more, hopening⟩ := List.head?_eq_some_iff.mp hd
  have hfound : behindOpening? opening.toList true
      (code.toList ++ (opening.toList ++ (c.idText.toList ++ closing.toList))) =
        some (c.idText.toList ++ closing.toList) := by
    rw [hopening, behindOpening?_assignments hcode other]
    exact behindOpening?_append (List.cons_ne_nil d more) _
  have hcut : (c.idText.toList ++ closing.toList).dropSuffix? closing.toList = some c.idText.toList :=
    List.dropSuffix?_eq_some_iff.mpr ⟨closing.toList, rfl, beq_self_eq_true closing.toList⟩
  rw [idsBetween?, hfound, Option.bind_some, hcut, Option.map_some, String.ofList_toList]
  exact congrArg some (listedIds_joinWith listable)

/-- The start tag of a script element is passed over, with its nonce if it has one. -/
theorem behindScriptTag?_nonce (o : Output) (rest : List Char) :
    behindScriptTag? ("<script".toList ++ ((nonceAttribute o).toList ++ '>' :: rest)) = some rest := by
  have hattr : " nonce=\"".toList = ' ' :: "nonce=\"".toList := by decide
  have hend : ('>' :: rest).dropPrefix? ['>'] = some rest := dropPrefix?_append ['>'] rest
  have hnonce : nonceAttribute o = "" ∨ ∃ nonce, nonceAttribute o = " nonce=" ++ Script.quote nonce := by
    rw [nonceAttribute]
    split
    · split
      · exact .inl rfl
      · exact .inr ⟨_, rfl⟩
    · exact .inl rfl
  rw [behindScriptTag?, dropPrefix?_append, Option.bind_eq_bind, Option.bind_some]
  rcases hnonce with hnonce | ⟨nonce, hnonce⟩ <;> rw [hnonce]
  · rw [String.toList_empty, List.nil_append, hattr, dropPrefix?_of_ne (by decide)]
    exact hend
  · have hvalue : (" nonce=" ++ Script.quote nonce).toList ++ '>' :: rest =
        " nonce=\"".toList ++ (Script.escape nonce.toList ++ '"' :: '>' :: rest) := by
      rw [String.toList_append, Script.toList_quote]
      simp
    rw [hvalue, dropPrefix?_append]
    dsimp only
    rw [Script.literalText?_escape]
    exact hend

/-- What ends like a marker has no call at its end. -/
theorem idsBetween?_call_of_marker (front : List Char) :
    idsBetween? "$markoWidgets(\"" "\")</script>" (front ++ "\"></noscript>".toList) = none := by
  rw [idsBetween?, Option.map_eq_none_iff, Option.bind_eq_none_iff]
  intro list hfound
  rw [Option.eq_none_iff_forall_ne_some]
  intro ids hids
  obtain ⟨closing, rfl, hclosing⟩ := List.dropSuffix?_eq_some_iff.mp hids
  obtain rfl := eq_of_beq hclosing
  have hends : "\")</script>".toList <:+ front ++ "\"></noscript>".toList :=
    (List.suffix_append ids _).trans (suffix_of_behindOpening? hfound)
  have hsuffix := List.suffix_of_suffix_length_le hends (List.suffix_append front _) (by decide)
  exact absurd hsuffix (by decide)

/-- **The ids on a page are read back**, whichever form the options ask for. -/
theorem writtenIds?_bootstrapText (options : BootstrapOptions) (o : Output)
    (hcode : assignments Codec.json c = .ok code) (listable : ∀ id ∈ c.ids, Listable id) :
    writtenIds? (bootstrapText options (nonceAttribute o) c.idText code).toList = some c.ids := by
  rw [writtenIds?, bootstrapText]
  split
  · have hsplit : (scriptElement (nonceAttribute o) (code ++ startCall c.idText)).toList =
        "<script".toList ++ ((nonceAttribute o).toList ++ '>' ::
          (code.toList ++ ("$markoWidgets(\"".toList ++ (c.idText.toList ++ "\")</script>".toList)))) := by
      have hclosing : "\")</script>".toList = "\")".toList ++ "</script>".toList := by decide
      rw [toList_scriptElement, String.toList_append, toList_startCall, hclosing]
      simp only [List.append_assoc]
    have hlist := idsBetween?_list hcode listable "$markoWidgets(\"" "\")</script>" ⟨'$', by decide, by decide⟩
    rw [hsplit, if_neg (by simp), behindScriptTag?_nonce, Option.bind_eq_bind, Option.bind_some, hlist, Option.some_or]
  · have hclosing : "</script><noscript id=\"markoWidgets\" data-ids=\"".toList =
        "</script>".toList ++ "<noscript id=\"markoWidgets\" data-ids=\"".toList := by decide +kernel
    have hsplit : (scriptElement (nonceAttribute o) code ++ marker c.idText).toList =
        "<script".toList ++ ((nonceAttribute o).toList ++ '>' ::
          (code.toList ++ ("</script><noscript id=\"markoWidgets\" data-ids=\"".toList ++
            (c.idText.toList ++ "\"></noscript>".toList)))) := by
      rw [String.toList_append, toList_scriptElement, toList_marker, hclosing]
      simp only [List.append_assoc, List.cons_append]
    -- no call is found in this text, so the ids are those of the marker
    have hcall := idsBetween?_call_of_marker (code.toList ++
      ("</script><noscript id=\"markoWidgets\" data-ids=\"".toList ++ c.idText.toList))
    have hlist := idsBetween?_list hcode listable "</script><noscript id=\"markoWidgets\" data-ids=\""
      "\"></noscript>" ⟨'<', by decide, by decide⟩
    rw [List.append_assoc, List.append_assoc] at hcall
    rw [hsplit, if_neg (by simp), behindScriptTag?_nonce, Option.bind_eq_bind, Option.bind_some, hcall, Option.none_or,
      hlist]

/-- **The ids in returned code are read back.** -/
theorem returnedIds?_code (hcode : assignments Codec.json c = .ok code) (listable : ∀ id ∈ c.ids, Listable id) :
    returnedIds? (code ++ startCall c.idText ++ ";").toList = some c.ids := by
  have hsplit : (code ++ startCall c.idText ++ ";").toList =
      code.toList ++ ("$markoWidgets(\"".toList ++ (c.idText.toList ++ "\");".toList)) := by
    have hclosing : "\");".toList = "\")".toList ++ ";".toList := by decide
    rw [String.toList_append, String.toList_append, toList_startCall, hclosing]
    simp only [List.append_assoc]
  rw [returnedIds?, hsplit]
  exact idsBetween?_list hcode listable "$markoWidgets(\"" "\");" ⟨'$', by decide, by decide⟩

/-- Ids that can stand in a list leave nothing to list only if there are none. -/
theorem ids_eq_nil_of_isEmpty (empty : c.isEmpty = true) (listable : ∀ id ∈ c.ids, Listable id) : c.ids = [] := by
  rw [← listedIds_joinWith listable]
  exact if_pos empty

end Batch

end WidgetTemplates.Page
