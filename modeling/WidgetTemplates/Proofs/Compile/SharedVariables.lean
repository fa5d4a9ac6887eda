import WidgetTemplates.Proofs.Compile.Rules
import WidgetTemplates.Proofs.Script.StringLiteral

/-!
# Variables that are shared

Variables at the top of the module are asked for in four ways: under a name of their own, as a module under a name, by
their code, and as the description of the widget in a module. The first two look for the name, the others for the code,
and any of them may come at any time (`serveAll`).

Whatever is asked for, variables are only added at the end, and each under a new name (`grows_serve`, `nodup_serve`).
So the first variable with some code stays the first one, and whoever asks for that code gets it (`find?_serve`):
`variables_shared_iff` says that two of them get the same variable exactly if they ask for the same code. The
descriptions of two modules are different codes, because the literals in them end where they end
(`widgetTypeCode_injective`).
-/

namespace WidgetTemplates.Compile

open Script (Expr)

/-! ## Fresh names -/

/-- The names that are tried for a new variable: the given one, then the same with `2`, `3` and so on behind it. -/
def candidate (base : String) : Nat → String
  | 0 => base
  | k + 1 => base ++ toString (k + 2)

namespace CompileUnit

variable {u u' : CompileUnit} {name code base path path' : String}

/-- A fresh name is the first candidate that is not taken. -/
theorem freshName_eq_find? (u : CompileUnit) (base : String) :
    u.freshName base = (((List.range (u.declarations.length + 1)).map (candidate base)).find?
      fun n => !u.declarations.any (·.name == n)).getD base := by
  rw [freshName, List.range_succ_eq_map, List.map_cons, List.map_map]
  rfl

/-- The fresh name is the first candidate that is not declared. -/
theorem exists_freshName (u : CompileUnit) (base : String) :
    ∃ k, u.freshName base = candidate base k ∧ candidate base k ∉ u.declarations.map (·.name) ∧
      ∀ j < k, candidate base j ∈ u.declarations.map (·.name) := by
  have hfresh : u.freshName base ∉ u.declarations.map (·.name) := by
    intro hmem
    obtain ⟨d, hd, hname⟩ := List.mem_map.mp hmem
    exact Site.freshName_fresh u base d hd hname
  rw [freshName_eq_find?] at hfresh ⊢
  generalize hfound : List.find? _ _ = found at hfresh ⊢
  cases found with
  | none =>
    -- then even the given name would be declared
    have hbase := List.find?_eq_none.mp hfound base (List.mem_map.mpr ⟨0, by simp, rfl⟩)
    exact absurd (by simpa using hbase) hfresh
  | some name =>
    obtain ⟨-, k, hk, rfl, hbefore⟩ := List.find?_eq_some_iff_getElem.mp hfound
    simp only [List.getElem_map, List.getElem_range, Option.getD_some] at hfresh hbefore ⊢
    exact ⟨k, rfl, hfresh, fun j hj => by simpa using hbefore j hj⟩

/-! ## Codes -/

/-- The description of a widget depends on the settings and the module only. -/
theorem widgetTypeCode_congr (h : u'.settings = u.settings) (path : String) :
    u'.widgetTypeCode path = u.widgetTypeCode path := by
  rw [widgetTypeCode, widgetTypeCode, widgetName, widgetName, h]

/-- Different modules are described differently. -/
theorem widgetTypeCode_injective (h : u.widgetTypeCode path = u.widgetTypeCode path') : path = path' := by
  have hlist := congrArg String.toList h
  simp only [widgetTypeCode, String.toList_append, List.append_assoc] at hlist
  obtain ⟨-, hbehind⟩ := Script.quote_append_inj (List.append_cancel_left hlist)
  exact (Script.quote_append_inj (List.append_cancel_left hbehind)).1

end CompileUnit

/-! ## Requests -/

/-- A request for a variable at the top of the module: one of a given name, one that holds a module, one with this code,
or the one that describes the widget in a module. -/
inductive Request where
  | named (name code : String)
  | module (name path : String)
  | coded (base code : String)
  | widget (path : String)

namespace Request

/-- Answers a request with a reference to the variable. -/
def serve (u : CompileUnit) : Request → Expr × CompileUnit
  | .named name code => (.ident name, u.declare name code)
  | .module name path => (.ident name, u.importModule name path)
  | .coded base code => u.declareOnce base code
  | .widget path => u.widgetType path

/-- The code that is asked for, if the request is for a code. -/
def code? (u : CompileUnit) : Request → Option String
  | .named _ _ | .module _ _ => none
  | .coded _ code => some code
  | .widget path => some (u.widgetTypeCode path)

end Request

/-- Answers requests one after another. -/
def serveAll (u : CompileUnit) : List Request → List Expr × CompileUnit
  | [] => ([], u)
  | r :: rest =>
    let (answer, u) := r.serve u
    let (more, u) := serveAll u rest
    (answer :: more, u)

section Requests

variable {u : CompileUnit} {code : String}

/-! ## One request -/

theorem settings_declare (u : CompileUnit) (name code : String) : (u.declare name code).settings = u.settings := by
  rw [CompileUnit.declare]
  split <;> rfl

/-- Variables are declared behind those that are there. -/
theorem prefix_declare (u : CompileUnit) (name code : String) :
    u.declarations <+: (u.declare name code).declarations := by
  rw [CompileUnit.declare]
  split
  · exact List.prefix_refl _
  · exact List.prefix_append _ _

/-- Declaring a variable keeps the names distinct. -/
theorem nodup_declare (distinct : (u.declarations.map (·.name)).Nodup) (name code : String) :
    ((u.declare name code).declarations.map (·.name)).Nodup := by
  by_cases hfresh : ∀ d ∈ u.declarations, d.name ≠ name
  · rw [Site.declare_of_fresh hfresh, List.map_append, List.map_singleton, ← List.concat_eq_append]
    exact distinct.concat fun hmem => by
      obtain ⟨d, hd, hname⟩ := List.mem_map.mp hmem
      exact hfresh d hd hname
  · rw [CompileUnit.declare, if_pos (by simpa using hfresh)]
    exact distinct

/-- A variable that is found by its code has that code. -/
theorem code_of_find? {ds : List Declaration} {d : Declaration} (h : ds.find? (·.code == code) = some d) :
    d.code = code := by
  simpa using List.find?_some h

/-- A code is looked up before it is declared. Either way its first variable is the answer. -/
theorem find?_declareOnce (u : CompileUnit) (base code : String) :
    ∃ d, (u.declareOnce base code).2.declarations.find? (·.code == code) = some d ∧
      (u.declareOnce base code).1 = .ident d.name := by
  rw [CompileUnit.declareOnce]
  cases hfound : u.declarations.find? (·.code == code) with
  | none =>
    refine ⟨⟨u.freshName base, code⟩, ?_, rfl⟩
    dsimp only
    rw [Site.declare_of_fresh (Site.freshName_fresh u base), List.find?_append, hfound]
    simp
  | some d => exact ⟨d, hfound, rfl⟩

/-- What a request does to the unit, if anything, is declaring a variable. -/
theorem serve_eq_declare (u : CompileUnit) (r : Request) :
    (r.serve u).2 = u ∨ ∃ name code, (r.serve u).2 = u.declare name code := by
  have honce : ∀ base code, (u.declareOnce base code).2 = u ∨
      ∃ name code', (u.declareOnce base code).2 = u.declare name code' := by
    intro base code
    rw [CompileUnit.declareOnce]
    split
    · exact .inl rfl
    · exact .inr ⟨_, _, rfl⟩
  cases r with
  | named name code => exact .inr ⟨name, code, rfl⟩
  | module name path => exact .inr ⟨name, _, rfl⟩
  | coded base code => exact honce base code
  | widget path => exact honce _ _

theorem settings_serve (u : CompileUnit) (r : Request) : (r.serve u).2.settings = u.settings := by
  rcases serve_eq_declare u r with h | ⟨name, code, h⟩ <;> rw [h]
  exact settings_declare u name code

/-- **A request adds variables at the end only.** -/
theorem grows_serve (u : CompileUnit) (r : Request) : u.declarations <+: (r.serve u).2.declarations := by
  rcases serve_eq_declare u r with h | ⟨name, code, h⟩
  · simp [h]
  · rw [h]
    exact prefix_declare u name code

/-- Serving a request keeps the names distinct. -/
theorem nodup_serve (distinct : (u.declarations.map (·.name)).Nodup) (r : Request) :
    ((r.serve u).2.declarations.map (·.name)).Nodup := by
  rcases serve_eq_declare u r with h | ⟨name, code, h⟩ <;> rw [h]
  · exact distinct
  · exact nodup_declare distinct name code

/-- The answer to a request for a code is the first variable with that code. -/
theorem find?_serve {r : Request} (asks : r.code? u = some code) :
    ∃ d, (r.serve u).2.declarations.find? (·.code == code) = some d ∧ (r.serve u).1 = .ident d.name := by
  cases r with
  | named name code' => exact nomatch asks
  | module name path => exact nomatch asks
  | coded base code' =>
    obtain rfl := Option.some.inj asks
    exact find?_declareOnce u base code'
  | widget path =>
    obtain rfl := Option.some.inj asks
    exact find?_declareOnce u "__widgetType" _

/-! ## All requests -/

/-- Requests in a row are served one after another. -/
theorem serveAll_append (u : CompileUnit) (front back : List Request) :
    serveAll u (front ++ back) =
      ((serveAll u front).1 ++ (serveAll (serveAll u front).2 back).1, (serveAll (serveAll u front).2 back).2) := by
  induction front generalizing u with
  | nil => rfl
  | cons r front ih => simp only [List.cons_append, serveAll, ih]

theorem settings_serveAll (u : CompileUnit) (rs : List Request) : (serveAll u rs).2.settings = u.settings := by
  induction rs generalizing u with
  | nil => rfl
  | cons r rest ih => exact (ih _).trans (settings_serve u r)

/-- Requests add variables behind those that are there. -/
theorem grows_serveAll (u : CompileUnit) (rs : List Request) : u.declarations <+: (serveAll u rs).2.declarations := by
  induction rs generalizing u with
  | nil => exact List.prefix_refl _
  | cons r rest ih => exact (grows_serve u r).trans (ih _)

/-- Serving requests keeps the names distinct. -/
theorem nodup_serveAll (distinct : (u.declarations.map (·.name)).Nodup) (rs : List Request) :
    ((serveAll u rs).2.declarations.map (·.name)).Nodup := by
  induction rs generalizing u with
  | nil => exact distinct
  | cons r rest ih => exact ih (nodup_serve distinct r)

/-- There is an answer to each request. -/
theorem length_answers (u : CompileUnit) (rs : List Request) : (serveAll u rs).1.length = rs.length := by
  induction rs generalizing u with
  | nil => rfl
  | cons r rest ih => exact congrArg (· + 1) (ih _)

/-- The code that a request is for does not depend on what has been declared. -/
theorem code?_serveAll (u : CompileUnit) (rs : List Request) (r : Request) : r.code? (serveAll u rs).2 = r.code? u := by
  cases r with
  | widget path => exact congrArg some (CompileUnit.widgetTypeCode_congr (settings_serveAll u rs) path)
  | _ => rfl

/-- An answer is given when its request comes up, and the variables stay. -/
theorem find?_serveAll {rs : List Request} {i : Nat} {r : Request} (asked : rs[i]? = some r)
    (asks : r.code? u = some code) :
    ∃ d, (serveAll u (rs.take (i + 1))).2.declarations.find? (·.code == code) = some d ∧
      (serveAll u rs).2.declarations.find? (·.code == code) = some d ∧
        (serveAll u rs).1[i]? = some (.ident d.name) := by
  obtain ⟨hi, rfl⟩ := List.getElem?_eq_some_iff.mp asked
  let before := (serveAll u (rs.take i)).2
  obtain ⟨d, hfound, hanswer⟩ := @find?_serve before code rs[i] ((code?_serveAll u _ _).trans asks)
  -- the request is served after those before it, and its variable stays while the later ones are served
  have htake : serveAll u (rs.take (i + 1)) =
      ((serveAll u (rs.take i)).1 ++ [(rs[i].serve before).1], (rs[i].serve before).2) := by
    rw [List.take_succ_eq_append_getElem hi, serveAll_append]
    rfl
  have hall : serveAll u rs =
      ((serveAll u (rs.take (i + 1))).1 ++ (serveAll (rs[i].serve before).2 (rs.drop (i + 1))).1,
        (serveAll (rs[i].serve before).2 (rs.drop (i + 1))).2) := by
    conv_lhs => rw [← List.take_append_drop (i + 1) rs, serveAll_append, htake]
    rw [htake]
  refine ⟨d, by rw [htake]; exact hfound, ?_, ?_⟩
  · rw [hall]
    exact (grows_serveAll _ _).find?_eq_some hfound
  · have hlength : (serveAll u (rs.take i)).1.length = i := by
      rw [length_answers, List.length_take]
      omega
    rw [hall, htake, List.append_assoc, List.getElem?_append_right (Nat.le_of_eq hlength), hlength, Nat.sub_self]
    exact congrArg some hanswer

/-- Two requests for codes get the same variable exactly if the codes are the same. -/
theorem answer_eq_iff (distinct : (u.declarations.map (·.name)).Nodup) {rs : List Request} {i j : Nat} {r r' : Request}
    {code' : String} (asked : rs[i]? = some r) (asked' : rs[j]? = some r') (asks : r.code? u = some code)
    (asks' : r'.code? u = some code') : (serveAll u rs).1[i]? = (serveAll u rs).1[j]? ↔ code = code' := by
  obtain ⟨d, -, hfound, hanswer⟩ := find?_serveAll asked asks
  obtain ⟨d', -, hfound', hanswer'⟩ := find?_serveAll asked' asks'
  rw [hanswer, hanswer']
  constructor
  · intro h
    have hname : d.name = d'.name := Expr.ident.inj (Option.some.inj h)
    obtain rfl : d = d' := List.inj_on_of_nodup_map (nodup_serveAll distinct rs) (List.mem_of_find?_eq_some hfound)
      (List.mem_of_find?_eq_some hfound') hname
    exact (code_of_find? hfound).symm.trans (code_of_find? hfound')
  · rintro rfl
    rw [Option.some.inj (hfound.symm.trans hfound')]

end Requests

/-- **Variables are stable, and are shared by what they stand for.** Any requests are answered one after another in a
new unit. At any time the names of the variables differ, later variables stand behind them, and the search for a fresh
name ends at the first candidate that is not declared. Whoever asks for a code gets a variable that has exactly this
code, and two of them get the same one exactly if they ask for the same code. So two modules share the variable that
describes their widgets exactly if their paths are the same. -/
theorem variables_shared_iff (settings : Template.Settings) (files : Path.Files) (rs : List Request) :
    let start : CompileUnit := { settings, files }
    let unitAfter := fun n => (serveAll start (rs.take n)).2
    let answers := (serveAll start rs).1
    (∀ n, ((unitAfter n).declarations.map (·.name)).Nodup) ∧
      (∀ m n, m ≤ n → (unitAfter m).declarations <+: (unitAfter n).declarations) ∧
      (∀ n base, ∃ k, (unitAfter n).freshName base = candidate base k ∧
        candidate base k ∉ (unitAfter n).declarations.map (·.name) ∧
        ∀ j < k, candidate base j ∈ (unitAfter n).declarations.map (·.name)) ∧
      (∀ (i : Nat) (r : Request) code, rs[i]? = some r → r.code? start = some code →
        ∃ d ∈ (unitAfter (i + 1)).declarations, answers[i]? = some (.ident d.name) ∧ d.code = code) ∧
      (∀ (i j : Nat) (r r' : Request) code code', rs[i]? = some r → rs[j]? = some r' → r.code? start = some code →
        r'.code? start = some code' → (answers[i]? = answers[j]? ↔ code = code')) ∧
      ∀ (i j : Nat) path path', rs[i]? = some (Request.widget path) → rs[j]? = some (Request.widget path') →
        (answers[i]? = answers[j]? ↔ path = path') := by
  intro start unitAfter answers
  have distinct : (start.declarations.map (·.name)).Nodup := List.nodup_nil
  refine ⟨fun n => nodup_serveAll distinct _, ?_, fun n base => (unitAfter n).exists_freshName base, ?_, ?_, ?_⟩
  · intro m n hmn
    obtain ⟨back, hsplit⟩ : rs.take m <+: rs.take n := List.take_prefix_take_left hmn
    simp only [unitAfter]
    rw [← hsplit, serveAll_append]
    exact grows_serveAll _ _
  · intro i r code asked asks
    obtain ⟨d, hfound, -, hanswer⟩ := find?_serveAll asked asks
    exact ⟨d, List.mem_of_find?_eq_some hfound, hanswer, code_of_find? hfound⟩
  · intro i j r r' code code' asked asked' asks asks'
    exact answer_eq_iff distinct asked asked' asks asks'
  · intro i j path path' asked asked'
    rw [answer_eq_iff distinct asked asked' rfl rfl]
    exact ⟨CompileUnit.widgetTypeCode_injective, fun h => h ▸ rfl⟩

/-- A module has taken the second name already, and a code is asked for again under another base. -/
theorem variables_shared_around_module :
    let rs : List Request := [.coded "__widgetType" "A", .module "__widgetType2" "./m", .widget "./a", .coded "w" "A",
      .widget "./b", .widget "./a"]
    let answers := (serveAll {} rs).1
    answers = [.ident "__widgetType", .ident "__widgetType2", .ident "__widgetType3", .ident "__widgetType",
        .ident "__widgetType4", .ident "__widgetType3"] ∧
      answers[0]? = answers[3]? ∧ answers[2]? ≠ answers[4]? ∧ answers[2]? = answers[5]? := by
  intro rs answers
  obtain ⟨-, -, -, -, hcodes, hpaths⟩ := variables_shared_iff {} {} rs
  refine ⟨by rfl, (hcodes 0 3 _ _ "A" "A" rfl rfl rfl rfl).mpr rfl, ?_, (hpaths 2 5 _ _ rfl rfl).mpr rfl⟩
  exact fun h => absurd ((hpaths 2 4 "./a" "./b" rfl rfl).mp h) (by decide)

end WidgetTemplates.Compile
