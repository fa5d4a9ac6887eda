import WidgetTemplates.Proofs.Markup.QuotedValue
import WidgetTemplates.Proofs.Page.Emission
import WidgetTemplates.Proofs.Page.ScriptJson
import WidgetTemplates.Proofs.Script.StringLiteral
import WidgetTemplates.Proofs.Text.Occurrences

/-!
# Ids in bootstrap code

Bootstrap code quotes a nonce and escapes states, but it puts the ids as they are between the quotes of a string
literal or of an attribute. `written_ids_read_back_iff` says for which ids this is harmless: in a call for those with
no character that means anything in a literal and without the end of a script element; in a marker, as far as ids
without character references go, for those without double quotes and NULs. All other ids leave their quotes or come
out changed, `a"b` for one (`quoted_id_leaves_literal`). Quoting would keep every id (`Script.literal?_escape`).
-/

namespace WidgetTemplates.Page

open Markup (quotedValue? decodedValue)
open Markup.Scanner (opened)
open Script (literal? units Verbatim)
open Text (occurrences)

/-- What the end of a script element begins with. -/
def scriptClosing : List Char := "</script".toList

/-! ## The assignments -/

/-- An assignment to a global with a safe name is safe in a script. -/
theorem exists_scriptSafe_assignment (target : Target) (hname : ScriptSafe target.name) (entries : Json.Members) :
    ∃ code, assignment Codec.json target entries = .ok code ∧ ScriptSafe code := by
  rw [assignment]
  split
  · exact ⟨"", rfl, by decide⟩
  · exact ⟨_, rfl, scriptSafe_append.mpr ⟨hname.assign (scriptSafe_scriptJson entries), by decide⟩⟩

/-- No state and no configuration leads out of the script. -/
theorem exists_scriptSafe_assignments (c : Collected) :
    ∃ code, assignments Codec.json c = .ok code ∧ ScriptSafe code := by
  obtain ⟨state, hstate, safe_state⟩ := exists_scriptSafe_assignment .state (by decide) c.state
  obtain ⟨config, hconfig, safe_config⟩ := exists_scriptSafe_assignment .config (by decide) c.config
  refine ⟨state ++ config, ?_, scriptSafe_append.mpr ⟨safe_state, safe_config⟩⟩
  rw [assignments, hstate, hconfig]
  rfl

/-! ## The ids -/

theorem startCall_eq (ids : String) : startCall ids = "$markoWidgets(\"" ++ ids ++ "\")" := rfl

theorem marker_eq (ids : String) :
    marker ids = "<noscript id=\"markoWidgets\" data-ids=\"" ++ ids ++ "\"></noscript>" := rfl

theorem scriptElement_nil (code : String) : scriptElement "" code = "<script>" ++ code ++ "</script>" := by
  have hopen : "<script" ++ "" ++ ">" = "<script>" := by decide
  rw [scriptElement, hopen]

/-- The end of a script element occurs once for the element and as often as it occurs in the ids. -/
theorem occurrences_scriptClosing {code : String} (safe : ScriptSafe code) (ids : String) :
    occurrences scriptClosing (scriptElement "" (code ++ startCall ids)).toList =
      occurrences scriptClosing ids.toList + 1 := by
  have hsplit : (scriptElement "" (code ++ startCall ids)).toList =
      ("<script".toList ++ '>' :: (code.toList ++ "$markoWidgets(".toList)) ++
        '"' :: (ids.toList ++ '"' :: ")</script>".toList) := by
    simp [scriptElement, startCall_eq]
  have hcall : '<' ∉ code.toList ++ "$markoWidgets(".toList := by
    rw [List.mem_append, not_or]
    exact ⟨fun h => (safe _ h).1 rfl, by decide⟩
  have hsome : scriptClosing ≠ [] := by decide
  have hquote : '"' ∉ scriptClosing := by decide
  have hlead : occurrences scriptClosing ("<script".toList ++ '>' :: (code.toList ++ "$markoWidgets(".toList)) = 0 := by
    have hopen : occurrences scriptClosing "<script".toList = 0 := by decide
    have hinside : occurrences scriptClosing (code.toList ++ "$markoWidgets(".toList) = 0 :=
      Text.occurrences_of_head_notMem hcall
    rw [Text.occurrences_append_cons hsome (by decide), hopen, hinside]
  have hend : occurrences scriptClosing ")</script>".toList = 1 := by decide
  rw [hsplit, Text.occurrences_append_cons hsome hquote, hlead, Text.occurrences_append_cons hsome hquote ids.toList,
    hend, Nat.zero_add]

/-- The literal of a call stands for the ids exactly if they are verbatim. -/
theorem call_literal_iff (ids : String) :
    (literal? (ids ++ "\")</script>").toList).map Prod.fst = some (units ids.toList) ↔ Verbatim ids.toList := by
  have hrest : '"' ∉ ")</script>".toList := by decide
  have hend : (ids ++ "\")</script>").toList = ids.toList ++ '"' :: ")</script>".toList := by simp
  rw [hend, Script.literal?_delimited_iff hrest]

/-- The text behind the opening quote of the ids in a marker. -/
theorem toList_markerTail (ids : String) :
    (ids ++ "\"></noscript>").toList = ids.toList ++ '"' :: "></noscript>".toList := by simp

/-- What is written when some ids are pending and the page has no nonce. -/
theorem writeBootstrap_of_ids {options : BootstrapOptions} {s : State} (listed : options.scanPage = false)
    (plain : nonceAttribute s.output = "") (some_id : (collect s.pending).isEmpty = false) {code : String}
    (hcode : assignments Codec.json (collect s.pending) = .ok code) :
    writeBootstrap Codec.json options s =
      (.ok (), s.markWritten.write (bootstrapText options "" (collect s.pending).idText code)) := by
  have hnonce : nonceAttribute s.markWritten.output = "" := by
    rcases s with ⟨o, _ | r⟩ <;> exact plain
  simp [writeBootstrap, State.take, listed, some_id, hcode, hnonce]

/-- Bootstrap code with a call, without a nonce. -/
theorem bootstrapText_call {options : BootstrapOptions} (immediate : options.immediate = true) (ids code : String) :
    bootstrapText options "" ids code = "<script>" ++ code ++ "$markoWidgets(\"" ++ ids ++ "\")</script>" := by
  have hend : "\")" ++ "</script>" = "\")</script>" := by decide
  rw [bootstrapText, if_pos immediate, scriptElement_nil, startCall_eq, ← hend]
  simp only [String.append_assoc]

/-- Bootstrap code with a marker, without a nonce. -/
theorem bootstrapText_marker {options : BootstrapOptions} (marked : options.immediate = false) (ids code : String) :
    bootstrapText options "" ids code = "<script>" ++ code ++ "</script>" ++
      "<noscript id=\"markoWidgets\" data-ids=\"" ++ ids ++ "\"></noscript>" := by
  rw [bootstrapText, if_neg (by rw [marked]; exact Bool.false_ne_true), scriptElement_nil, marker_eq]
  simp only [← String.append_assoc]

/-- **Which ids are read back from bootstrap code.** Let some non-empty id be pending on a page without nonce.

A call is written into a script element whose end occurs once more than in the ids, and it is at the end of the text.
The literal of the call stands for the ids exactly if they are verbatim.

The value of a marker is what the ids amount to up to their first double quote. Without character references it is
the ids exactly if they have no double quote and no NUL. -/
theorem written_ids_read_back_iff {options : BootstrapOptions} {s : State} (listed : options.scanPage = false)
    (plain : nonceAttribute s.output = "") (some_id : (collect s.pending).isEmpty = false) :
    ∃ code ids text, assignments Codec.json (collect s.pending) = .ok code ∧ ScriptSafe code ∧
      ids = Text.joinWith "," ((postorderAll s.pending).map Widget.id) ∧
      writeBootstrap Codec.json options s = (.ok (), s.markWritten.write text) ∧
      (options.immediate = true →
        text = "<script>" ++ code ++ "$markoWidgets(\"" ++ ids ++ "\")</script>" ∧
        occurrences scriptClosing text.toList = occurrences scriptClosing ids.toList + 1 ∧
        ((literal? (ids ++ "\")</script>").toList).map Prod.fst = some (units ids.toList) ↔ Verbatim ids.toList)) ∧
      (options.immediate = false →
        text = "<script>" ++ code ++ "</script>" ++ "<noscript id=\"markoWidgets\" data-ids=\"" ++ ids ++
          "\"></noscript>" ∧
        (quotedValue? opened (ids ++ "\"></noscript>").toList).map Prod.fst =
          some (decodedValue opened (ids.toList.takeWhile (· != '"'))) ∧
        ('&' ∉ ids.toList →
          ((quotedValue? opened (ids ++ "\"></noscript>").toList).map Prod.fst = some ids.toList ↔
            '"' ∉ ids.toList ∧ '\x00' ∉ ids.toList))) := by
  obtain ⟨code, hcode, safe⟩ := exists_scriptSafe_assignments (collect s.pending)
  have hids : (collect s.pending).idText = Text.joinWith "," ((postorderAll s.pending).map Widget.id) := by
    rw [Collected.idText, collect_ids]
  refine ⟨code, (collect s.pending).idText, _, hcode, safe, hids, writeBootstrap_of_ids listed plain some_id hcode,
    ?_, ?_⟩
  · intro immediate
    have hoccurrences := occurrences_scriptClosing safe (collect s.pending).idText
    refine ⟨bootstrapText_call immediate _ code, ?_, call_literal_iff _⟩
    rwa [bootstrapText, if_pos immediate]
  · intro marked
    rw [toList_markerTail]
    exact ⟨bootstrapText_marker marked _ code, Markup.quotedValue?_cut _ _,
      fun hamp => Markup.quotedValue?_eq_self_iff hamp _⟩

/-- A page on which one tree is pending. -/
def pageWith (tree : WidgetTree) : State := ⟨{ shared := { registry := some { roots := [tree] } } }, .shared⟩

/-- Ids as they are given out come back from a call, also next to a state that has the end of a script element. -/
theorem written_ids_read_back_of_nested :
    ∃ code text, ScriptSafe code ∧ text = "<script>" ++ code ++ "$markoWidgets(\"" ++ "w0-x[0],w0" ++ "\")</script>" ∧
      (writeBootstrap Codec.json { immediate := true } (pageWith (.node
        { id := "w0", state := some [("html", .string "</script>")] } [.node { id := "w0-x[0]" } []]))).2.output.text
        = text ∧
      occurrences scriptClosing text.toList = 1 ∧
      (literal? "w0-x[0],w0\")</script>".toList).map Prod.fst = some (units "w0-x[0],w0".toList) := by
  obtain ⟨code, ids, text, -, safe, hids, hwrite, hcall, -⟩ :=
    @written_ids_read_back_iff { immediate := true } (pageWith (.node
      { id := "w0", state := some [("html", .string "</script>")] } [.node { id := "w0-x[0]" } []])) rfl rfl
      (by decide +kernel)
  obtain rfl : ids = "w0-x[0],w0" := hids.trans (by decide +kernel)
  obtain ⟨htext, hcount, hliteral⟩ := hcall rfl
  refine ⟨code, text, safe, htext, ?_, hcount.trans (by decide +kernel), hliteral.mpr (by decide +kernel)⟩
  rw [hwrite]
  rfl

/-- An id with a double quote ends the literal of a call, and the value of a marker, before its own end. -/
theorem quoted_id_leaves_literal :
    (writeBootstrap Codec.json { immediate := true } (pageWith (.node { id := "a\"b" } []))).2.output.text =
        "<script>$markoWidgets(\"a\"b\")</script>" ∧
      literal? "a\"b\")</script>".toList = some (units "a".toList, "b\")</script>".toList) ∧
      units "a".toList ≠ units "a\"b".toList ∧
      (writeBootstrap Codec.json {} (pageWith (.node { id := "a\"b" } []))).2.output.text =
        "<script></script><noscript id=\"markoWidgets\" data-ids=\"a\"b\"></noscript>" ∧
      quotedValue? opened "a\"b\"></noscript>".toList = some (['a'], "b\"></noscript>".toList) := by
  decide +kernel

end WidgetTemplates.Page
