import PluginSandbox.Proofs.Path.Routes

/-!
# Normal forms compose

What a path leads to is found segment by segment, so a path may be put in
normal form before another is joined to it, from any directory and from none.
-/

namespace PluginSandbox.Path

def joined (base p : String) : String :=
  String.ofList (join base.toList p.toList)

def wayTo (dir : String) : List (List Char) :=
  (dir.toList.splitOn '/').foldl descend []

/-- Written as the root and names alone. -/
def IsAbsoluteNormal (t : String) : Prop :=
  ∃ names, (∀ s ∈ names, IsName s) ∧ t = absoluteText names

/-- Written as `.`, or as some `..` and then names alone. -/
def IsRelativeNormal (t : String) : Prop :=
  ∃ r : Route, (∀ s ∈ r.names, IsName s) ∧ t = r.text

/-! ## Joining -/

theorem joined_of_isAbsolute (base : String) {p : String} (h : isAbsolute p.toList = true) : joined base p = p := by
  rw [joined, join, if_pos h, String.ofList_toList]

theorem isAbsolute_joined (base : String) {p : String} (h : isAbsolute p.toList = false) :
    isAbsolute (joined base p).toList = isAbsolute base.toList := by
  rw [joined, String.toList_ofList, isAbsolute_join base.toList h]

theorem foldl_splitOn_joined {β : Type} {f : β → List Char → β} (hempty : ∀ z, f z [] = z) (base : String)
    {p : String} (h : isAbsolute p.toList = false) (z : β) :
    ((joined base p).toList.splitOn '/').foldl f z =
      (p.toList.splitOn '/').foldl f ((base.toList.splitOn '/').foldl f z) := by
  rw [joined, String.toList_ofList, foldl_splitOn_join hempty base.toList h]

theorem Route.step_nil (r : Route) : r.step [] = r := rfl

/-! ## Where paths lead -/

theorem isName_of_mem_wayTo {dir : String} : ∀ s ∈ wayTo dir, IsName s :=
  isName_of_mem_foldl_descend _ _ (fun _ h => absurd h List.not_mem_nil) (slash_not_mem_of_mem_splitOn _)

theorem resolution_of_isAbsolute (cwd : String) {p : String} (h : isAbsolute p.toList = true) :
    resolution cwd p = wayTo p := by
  rw [resolution, if_pos h, wayTo]

theorem foldl_descend_eq_reach (p : String) (dir : List (List Char)) :
    (p.toList.splitOn '/').foldl descend dir = (route p).reach dir := by
  have hstay : Route.reach ⟨0, []⟩ dir = dir := by rw [Route.reach, List.rdrop_zero, List.append_nil]
  have hfold := Route.foldl_descend_reach (p.toList.splitOn '/') dir ⟨0, []⟩
  rwa [hstay] at hfold

theorem resolution_of_relative (cwd : String) {p : String} (h : isAbsolute p.toList = false) :
    resolution cwd p = (route p).reach (wayTo cwd) := by
  rw [resolution, if_neg (by simp [h]), List.splitOn_append_cons_self, List.foldl_append, foldl_descend_eq_reach,
    wayTo]

theorem wayTo_absoluteText {names : List (List Char)} (h : ∀ s ∈ names, IsName s) :
    wayTo (absoluteText names) = names := by
  have habs : isAbsolute (absoluteText names).toList = true := by rw [absoluteText, String.toList_ofList]; rfl
  rw [← resolution_of_isAbsolute "" habs, resolution_absoluteText "" h]

theorem wayTo_joined (base : String) {p : String} (h : isAbsolute p.toList = false) :
    wayTo (joined base p) = (route p).reach (wayTo base) := by
  rw [wayTo, foldl_splitOn_joined descend_nil base h, foldl_descend_eq_reach, wayTo]

theorem route_joined (base : String) {p : String} (h : isAbsolute p.toList = false) :
    route (joined base p) = (p.toList.splitOn '/').foldl Route.step (route base) :=
  foldl_splitOn_joined Route.step_nil base h ⟨0, []⟩

theorem resolution_joined (cwd base : String) {p : String} (h : isAbsolute p.toList = false) :
    resolution cwd (joined base p) = (route p).reach (resolution cwd base) := by
  cases hbase : isAbsolute base.toList with
  | true =>
    rw [resolution_of_isAbsolute cwd ((isAbsolute_joined base h).trans hbase), resolution_of_isAbsolute cwd hbase,
      wayTo_joined base h]
  | false =>
    rw [resolution_of_relative cwd ((isAbsolute_joined base h).trans hbase), resolution_of_relative cwd hbase,
      route_joined base h, ← Route.foldl_descend_reach, foldl_descend_eq_reach]

/-! ## Normal forms -/

theorem isAbsolute_absoluteText (names : List (List Char)) : isAbsolute (absoluteText names).toList = true := by
  rw [absoluteText, String.toList_ofList]
  rfl

theorem absoluteText_nil : absoluteText [] = "/" := by decide

theorem absoluteText_inj {above names : List (List Char)} (habove : ∀ s ∈ above, IsName s)
    (hnames : ∀ s ∈ names, IsName s) : absoluteText above = absoluteText names ↔ above = names := by
  constructor
  · intro h
    rw [← wayTo_absoluteText habove, h, wayTo_absoluteText hnames]
  · exact congrArg absoluteText

theorem normalize_of_isAbsolute (cwd : Option String) {p : String} (h : isAbsolute p.toList = true) :
    normalize cwd p = absoluteText (wayTo p) := by
  -- the directory plays no part, so any will do
  have hroot : normalize cwd p = normalize (some "/") p := by
    simp only [normalize, normalizeChars, resolve, h, if_true]
  rw [hroot, normalize_eq_absoluteText (by decide), resolution_of_isAbsolute _ h]

theorem normalize_absoluteText (cwd : Option String) {names : List (List Char)} (h : ∀ s ∈ names, IsName s) :
    normalize cwd (absoluteText names) = absoluteText names := by
  rw [normalize_of_isAbsolute cwd (isAbsolute_absoluteText names), wayTo_absoluteText h]

theorem normalize_none_text {r : Route} (h : ∀ s ∈ r.names, IsName s) : normalize none r.text = r.text := by
  rw [normalize_none_of_relative (isAbsolute_text h), route_text h]

/-- A relative path may be cleaned before it is known where it starts. -/
theorem normalize_joined_normalize_none (cwd : Option String) {dir p : String} (hdir : isAbsolute dir.toList = true)
    (hp : isAbsolute p.toList = false) :
    normalize cwd (joined dir p) = normalize cwd (joined dir (normalize none p)) := by
  have htext : isAbsolute (route p).text.toList = false := isAbsolute_text isName_of_mem_route
  rw [normalize_of_isAbsolute cwd ((isAbsolute_joined dir hp).trans hdir), normalize_none_of_relative hp,
    normalize_of_isAbsolute cwd ((isAbsolute_joined dir htext).trans hdir), wayTo_joined dir hp,
    wayTo_joined dir htext, route_text isName_of_mem_route]

section
variable {cwd : Option String} (hcwd : ∀ dir ∈ cwd, isAbsolute dir.toList = true)
include hcwd

/-- A path with somewhere to start from is written by its names, any other by its route. -/
theorem normalize_cases (p : String) :
    (isAbsolute p.toList = true ∨ cwd ≠ none) ∧ IsAbsoluteNormal (normalize cwd p) ∨
      (isAbsolute p.toList = false ∧ cwd = none) ∧ normalize cwd p = (route p).text := by
  cases habs : isAbsolute p.toList with
  | true =>
    exact .inl ⟨.inl rfl, wayTo p, isName_of_mem_wayTo, normalize_of_isAbsolute cwd habs⟩
  | false =>
    cases cwd with
    | none => exact .inr ⟨⟨rfl, rfl⟩, normalize_none_of_relative habs⟩
    | some dir =>
      exact .inl ⟨.inr (Option.some_ne_none dir), resolution dir p, isName_of_mem_resolution,
        normalize_eq_absoluteText (hcwd dir rfl) p⟩

theorem normalize_idem (p : String) : normalize cwd (normalize cwd p) = normalize cwd p := by
  obtain ⟨-, names, hnames, heq⟩ | ⟨⟨-, rfl⟩, heq⟩ := normalize_cases hcwd p
  · rw [heq, normalize_absoluteText cwd hnames]
  · rw [heq, normalize_none_text isName_of_mem_route]

theorem normalize_joined (p q : String) :
    normalize cwd (joined p q) = normalize cwd (joined (normalize cwd p) q) := by
  cases hq : isAbsolute q.toList with
  | true => rw [joined_of_isAbsolute p hq, joined_of_isAbsolute _ hq]
  | false =>
    cases cwd with
    | some dir =>
      have hdir : isAbsolute dir.toList = true := hcwd dir rfl
      rw [normalize_eq_absoluteText hdir, normalize_eq_absoluteText hdir, resolution_joined dir p hq,
        resolution_joined dir _ hq, normalize_eq_absoluteText hdir p,
        resolution_absoluteText dir isName_of_mem_resolution]
    | none =>
      cases hp : isAbsolute p.toList with
      | true =>
        rw [normalize_of_isAbsolute none ((isAbsolute_joined p hq).trans hp), normalize_of_isAbsolute none hp,
          normalize_of_isAbsolute none ((isAbsolute_joined _ hq).trans (isAbsolute_absoluteText _)),
          wayTo_joined p hq, wayTo_joined _ hq, wayTo_absoluteText isName_of_mem_wayTo]
      | false =>
        rw [normalize_none_of_relative ((isAbsolute_joined p hq).trans hp), normalize_none_of_relative hp,
          normalize_none_of_relative ((isAbsolute_joined _ hq).trans (isAbsolute_text isName_of_mem_route)),
          route_joined p hq, route_joined _ hq, route_text isName_of_mem_route]

/-- **Normal forms compose.** They are normal again, hold no `.` or `..` that could be resolved, and
stand for the path wherever another is joined to it or it to a directory. -/
theorem normal_form_composes (p q : String) :
    normalize cwd (normalize cwd p) = normalize cwd p ∧
      (isAbsolute p.toList = true ∨ cwd ≠ none → IsAbsoluteNormal (normalize cwd p)) ∧
      (isAbsolute p.toList = false → cwd = none → IsRelativeNormal (normalize cwd p)) ∧
      normalize cwd (joined p q) = normalize cwd (joined (normalize cwd p) q) ∧
      ∀ dir : String, isAbsolute dir.toList = true → isAbsolute p.toList = false →
        normalize cwd (joined dir p) = normalize cwd (joined dir (normalize none p)) := by
  refine ⟨normalize_idem hcwd p, ?_, ?_, normalize_joined hcwd p q,
    fun dir hdir hp => normalize_joined_normalize_none cwd hdir hp⟩
  · intro hstart
    obtain ⟨-, hnormal⟩ | ⟨⟨hp, hnone⟩, -⟩ := normalize_cases hcwd p
    · exact hnormal
    · exact absurd hstart (by simp [hp, hnone])
  · rintro hp rfl
    exact ⟨route p, isName_of_mem_route, normalize_none_of_relative hp⟩

end

theorem normal_form_composes_home :
    (∀ dir ∈ some "/home/u", isAbsolute dir.toList = true) ∧
      IsAbsoluteNormal (normalize (some "/home/u") "x/../..//./b/") ∧
      IsRelativeNormal (normalize none "x/../..//./b/") ∧
      normalize none (joined "x/../..//./b/" "../../c") = normalize none (joined "../b" "../../c") ∧
      normalize (some "/home/u") (joined "/tmp" "x/../..//./b/") = normalize (some "/home/u") (joined "/tmp" "../b") := by
  have hhome : ∀ dir ∈ some "/home/u", isAbsolute dir.toList = true := by
    rintro dir ⟨⟩
    decide
  have hnowhere : ∀ dir ∈ (none : Option String), isAbsolute dir.toList = true := by
    rintro dir ⟨⟩
  have hform : normalize none "x/../..//./b/" = "../b" := by decide
  obtain ⟨-, habsolute, -, -, hdir⟩ := normal_form_composes hhome "x/../..//./b/" "../../c"
  obtain ⟨-, -, hrelative, hjoined, -⟩ := normal_form_composes hnowhere "x/../..//./b/" "../../c"
  rw [hform] at hjoined
  refine ⟨hhome, habsolute (.inr (by decide)), hrelative (by decide) rfl, hjoined, ?_⟩
  rw [hdir "/tmp" (by decide) (by decide), hform]

end PluginSandbox.Path
