import WidgetTemplates.Proofs.Page.FailedWrite
import WidgetTemplates.Proofs.Page.WrittenIds

/-!
# Bootstrap code on the page and as a text

Bootstrap code with a call can be written to the page, or be returned for the page to place it. Both ways collect the
same widgets and make the same assignments of them (`writeBootstrap_immediate`, `bootstrapCode_eq`). They differ when
there is nothing to bring to life: then nothing is written, but a call without ids is returned, behind the assignments
of a widget whose id is empty. `bootstraps_agree_iff` says when the two texts tell the browser the same.
-/

namespace WidgetTemplates.Page

/-! ## Calls -/

/-- What a call that brings widgets to life begins with. -/
def callStart : List Char := "$markoWidgets(".toList

/-- Code with a call has one. -/
theorem calls_startCall (front ids back : String) : callStart <:+: (front ++ startCall ids ++ back).toList := by
  have hsplit : (front ++ startCall ids ++ back).toList =
      front.toList ++ callStart ++ ('"' :: (ids.toList ++ '"' :: ')' :: back.toList)) := by
    have hquote : "$markoWidgets(\"".toList = callStart ++ ['"'] := by decide
    have hend : "\")".toList = ['"', ')'] := by decide
    simp only [startCall_eq, String.toList_append, hquote, hend, List.append_assoc, List.cons_append, List.nil_append]
  rw [hsplit]
  exact List.infix_append _ _ _

/-- A text on the page and a returned one tell the browser the same: neither of them calls, or the one on the page is a
script element with the returned one, without the semicolon at its end. -/
def SameBootstrap (nonce written returned : String) : Prop :=
  (¬ callStart <:+: written.toList ∧ ¬ callStart <:+: returned.toList) ∨
    ∃ code, returned = code ++ ";" ∧ written = scriptElement nonce code

/-- A text with a call tells the same as nothing but a script element. -/
theorem not_sameBootstrap {nonce written returned : String} (calls : callStart <:+: returned.toList)
    (other : ∀ code, written ≠ scriptElement nonce code) : ¬ SameBootstrap nonce written returned := by
  rintro (⟨-, hnone⟩ | ⟨code, -, hwritten⟩)
  · exact hnone calls
  · exact other code hwritten

/-- A script element does not begin like a marker. -/
theorem take_scriptElement (nonce code : String) : (scriptElement nonce code).toList.take 2 = ['<', 's'] := by
  simp only [scriptElement, String.toList_append, List.append_assoc]
  rw [List.take_append_of_le_length (by simp)]
  decide +kernel

/-- How a marker starts. -/
theorem take_marker (ids : String) : (marker ids).toList.take 2 = ['<', 'n'] := by
  simp only [marker_eq, String.toList_append, List.append_assoc]
  rw [List.take_append_of_le_length (by simp)]
  decide +kernel

/-- A script element is not empty. -/
theorem empty_ne_scriptElement (nonce code : String) : "" ≠ scriptElement nonce code := by
  intro h
  have htake := take_scriptElement nonce code
  rw [← h] at htake
  exact nomatch htake

/-- A marker is no script element. -/
theorem marker_ne_scriptElement (ids nonce code : String) : marker ids ≠ scriptElement nonce code := by
  intro h
  have htake := take_scriptElement nonce code
  rw [← h, take_marker] at htake
  exact absurd htake (by decide)

/-! ## Ids -/

/-- A list of ids is empty if there is no id, or a single empty one. -/
theorem joinWith_eq_empty_iff {ids : List String} : Text.joinWith "," ids = "" ↔ ids = [] ∨ ids = [""] := by
  rcases ids with _ | ⟨id, _ | ⟨next, rest⟩⟩ <;> simp [Text.joinWith]

/-- Nothing is brought to life by no widget at all, or by a single one whose id is empty. -/
theorem isEmpty_collect_iff (forest : List WidgetTree) :
    (collect forest).isEmpty = true ↔ (postorderAll forest).map Widget.id ∈ [[], [""]] := by
  rw [Collected.isEmpty, String.isEmpty_iff, Collected.idText, collect_ids, joinWith_eq_empty_iff]
  simp

/-! ## The two ways -/

/-- The text that a write with a call adds to a page. -/
def immediateText (scanPage : Bool) (o : Output) (code : String) : String :=
  if scanPage then marker "*"
  else if (collect o.registry.pending).isEmpty then ""
  else scriptElement (nonceAttribute o) (code ++ startCall (collect o.registry.pending).idText)

/-- With a call, bootstrap code writes one text to the page. -/
theorem writeBootstrap_immediate {codec : Codec} {options : BootstrapOptions} {o : Output} {code : String}
    (immediate : options.immediate = true) (hcode : assignments codec (collect o.registry.pending) = .ok code) :
    writeBootstrap codec options ⟨o, .shared⟩ =
      (.ok (), (if options.scanPage then ⟨o, .shared⟩ else State.markWritten ⟨o, .shared⟩).write
        (immediateText options.scanPage o code)) := by
  have hcollect : collect (State.pending ⟨o, .shared⟩) = collect o.registry.pending := rfl
  have hnonce : nonceAttribute (State.markWritten ⟨o, .shared⟩).output = nonceAttribute o := rfl
  rw [writeBootstrap, immediateText]
  cases options.scanPage with
  | true => rfl
  | false =>
    simp only [Bool.false_eq_true, if_false, State.take, hcollect, hcode, hnonce, bootstrapText, immediate, if_true]
    split
    · simp [State.write, Output.write]
    · rfl

/-- The code that is returned is the assignments and the call. -/
theorem bootstrapCode_eq {codec : Codec} {o : Output} {code : String}
    (hcode : assignments codec (collect o.registry.pending) = .ok code) :
    bootstrapCode codec o = (.ok (code ++ startCall (collect o.registry.pending).idText ++ ";"),
      (State.markWritten ⟨o, .shared⟩).output) := by
  have hcollect : collect (State.pending ⟨o, .shared⟩) = collect o.registry.pending := rfl
  rw [bootstrapCode, State.take, hcollect]
  dsimp only
  rw [hcode]
  rfl

/-- **When bootstrap code on the page and as a text tell the browser the same.** Take any page, with any widgets on it,
and write its bootstrap code with a call, or have it returned. Both go through. The texts tell the same exactly if the
page is not to be searched and the pending widgets are not none, nor a single one with an empty id; the returned one
always calls. Unless the page is to be searched, both leave the same widgets pending. -/
theorem bootstraps_agree_iff (options : BootstrapOptions) (o : Output) :
    ∃ s written returned o', writeBootstrap Codec.json { options with immediate := true } ⟨o, .shared⟩ = (.ok (), s) ∧
      s.output.text = o.text ++ written ∧ bootstrapCode Codec.json o = (.ok returned, o') ∧
      (SameBootstrap (nonceAttribute o) written returned ↔
        options.scanPage = false ∧ (postorderAll o.registry.pending).map Widget.id ∉ [[], [""]]) ∧
      callStart <:+: returned.toList ∧
      (s.output.registry.pending = o'.registry.pending ↔ options.scanPage = false ∨ o.registry.pending = []) := by
  obtain ⟨code, hcode⟩ := assignments_json (collect o.registry.pending)
  have hcalls := calls_startCall code (collect o.registry.pending).idText ";"
  have hnone : (State.markWritten ⟨o, .shared⟩).output.registry.pending = [] := by
    rw [registry_markWritten, Registry.pending_markWritten]
  refine ⟨_, immediateText options.scanPage o code, _, _, writeBootstrap_immediate rfl hcode, ?_,
    bootstrapCode_eq hcode, ?_, hcalls, ?_⟩
  · dsimp only
    split <;> rfl
  · rw [immediateText, ← isEmpty_collect_iff, Bool.not_eq_true]
    -- a page that is to be searched gets a marker, and one with nothing pending gets nothing
    rcases hscan : options.scanPage with _ | _
    · rcases hempty : (collect o.registry.pending).isEmpty with _ | _
      · exact iff_of_true (.inr ⟨_, rfl, rfl⟩) ⟨rfl, rfl⟩
      · exact iff_of_false (not_sameBootstrap hcalls (empty_ne_scriptElement _)) fun h => nomatch h.2
    · exact iff_of_false (not_sameBootstrap hcalls (marker_ne_scriptElement _ _)) fun h => nomatch h.1
  · rcases hscan : options.scanPage with _ | _
    · exact iff_of_true rfl (.inl rfl)
    · rw [hnone]
      simp [State.write, Output.write, Output.registry]

/-- On a page without widgets nothing is written, but a call is returned. -/
theorem call_returned_of_no_widgets :
    writeBootstrap Codec.json { immediate := true } ⟨{}, .shared⟩ = (.ok (), ⟨{}, .shared⟩) ∧
      bootstrapCode Codec.json {} = (.ok "$markoWidgets(\"\");", {}) ∧
      ¬ SameBootstrap (nonceAttribute {}) "" "$markoWidgets(\"\");" := by
  have hcall : "" ++ startCall "" ++ ";" = "$markoWidgets(\"\");" := by decide +kernel
  refine ⟨writeBootstrap_immediate rfl rfl, (bootstrapCode_eq rfl).trans (by rw [← hcall]; rfl), ?_⟩
  rw [← hcall]
  exact not_sameBootstrap (calls_startCall "" "" ";") (empty_ne_scriptElement _)

end WidgetTemplates.Page
