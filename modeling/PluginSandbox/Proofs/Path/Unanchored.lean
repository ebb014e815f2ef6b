import PluginSandbox.Proofs.Path.Composition

/-!
# Containment without a current directory

Where no directory is known, a relative path stays relative, and containment
compares the `..` and `.` that are left as if they were names. It is compared
here with what holds wherever the process may be: the two agree but on paths
without a name, `/` and `.` and a climb of `..` alone.
-/

namespace PluginSandbox.Path

/-- From whatever directory both are taken, `t` leads to where `b` leads or below it. -/
def CoversAnywhere (b t : String) : Prop :=
  ∀ dir : String, isAbsolute dir.toList = true → Covers dir b t

/-! ## A run of one thing -/

theorem replicate_append_prefix_iff {α : Type} {x : α} {m n : Nat} {as bs : List α} (has : x ∉ as) (hbs : x ∉ bs) :
    List.replicate m x ++ as <+: List.replicate n x ++ bs ↔ m = n ∧ as <+: bs ∨ m < n ∧ as = [] := by
  rcases Nat.lt_trichotomy m n with hlt | rfl | hgt
  · obtain ⟨k, rfl⟩ := Nat.exists_eq_add_of_lt hlt
    rw [Nat.add_assoc, List.replicate_add, List.append_assoc, List.prefix_append_right_inj, List.replicate_succ]
    cases as with
    | nil => simp
    | cons a as =>
      have hax : a ≠ x := fun h => has (h ▸ List.mem_cons_self ..)
      rw [List.cons_append, List.cons_prefix_cons]
      simp [hax]
  · rw [List.prefix_append_right_inj]
    simp
  · -- more of it before `as` than before `bs`: neither side holds
    refine iff_of_false ?_ (by omega)
    obtain ⟨k, rfl⟩ := Nat.exists_eq_add_of_lt hgt
    rw [Nat.add_assoc, List.replicate_add, List.append_assoc, List.prefix_append_right_inj, List.replicate_succ]
    cases bs with
    | nil => simp
    | cons b bs =>
      have hxb : x ≠ b := fun h => hbs (h ▸ List.mem_cons_self ..)
      rw [List.cons_append, List.cons_prefix_cons]
      simp [hxb]

/-! ## From any directory -/

theorem exists_fresh_name (taken : List (List Char)) : ∃ s, IsName s ∧ s ∉ taken := by
  -- longer than all of them together
  refine ⟨List.replicate (taken.flatten.length + 1) 'x', ⟨?_, ?_, ?_, ?_⟩, ?_⟩
  · simp
  · intro h; simp [List.replicate_succ] at h
  · intro h; simp [List.replicate_succ] at h
  · intro h; exact absurd (List.eq_of_mem_replicate h) (by decide)
  · intro h
    have hlength := (List.sublist_flatten_of_mem h).length_le
    rw [List.length_replicate] at hlength
    omega

theorem isName_of_mem_replicate {s : List Char} (h : IsName s) (k : Nat) : ∀ t ∈ List.replicate k s, IsName t :=
  fun _ ht => List.eq_of_mem_replicate ht ▸ h

theorem rdrop_replicate {α : Type} (x : α) (m n : Nat) :
    (List.replicate (m + n) x).rdrop m = List.replicate n x := by
  rw [List.rdrop, List.length_replicate, List.take_replicate]
  congr 1
  omega

namespace Route

/-- Both rise alike and go on by the same names, or `b` is a mere climb and the higher of the two. -/
def CoversAnywhere (b t : Route) : Prop :=
  b.rise = t.rise ∧ b.names <+: t.names ∨ t.rise < b.rise ∧ b.names = []

instance (b t : Route) : Decidable (b.CoversAnywhere t) :=
  inferInstanceAs (Decidable (_ ∧ _ ∨ _ ∧ _))

theorem forall_reach_prefix_iff {b t : Route} :
    (∀ dir : List (List Char), (∀ s ∈ dir, IsName s) → b.reach dir <+: t.reach dir) ↔ b.CoversAnywhere t := by
  constructor
  · intro h
    -- a directory deep enough for both, whose name occurs in neither
    obtain ⟨s, hs, hfresh⟩ := exists_fresh_name (b.names ++ t.names)
    rw [List.mem_append, not_or] at hfresh
    have hdir := h (List.replicate (b.rise + t.rise) s) (isName_of_mem_replicate hs _)
    rw [reach, reach, rdrop_replicate, Nat.add_comm b.rise, rdrop_replicate,
      replicate_append_prefix_iff hfresh.1 hfresh.2] at hdir
    exact hdir.imp_left fun hsame => ⟨hsame.1.symm, hsame.2⟩
  · rintro (⟨hrise, hnames⟩ | ⟨hrise, hnames⟩) dir -
    · rw [reach, reach, hrise, List.prefix_append_right_inj]
      exact hnames
    · rw [reach, reach, hnames, List.append_nil]
      exact (List.take_prefix_take_left (Nat.sub_le_sub_left hrise.le _)).trans (List.prefix_append _ _)

theorem forall_prefix_reach_iff {names : List (List Char)} {t : Route} :
    (∀ dir : List (List Char), (∀ s ∈ dir, IsName s) → names <+: t.reach dir) ↔ names = [] := by
  constructor
  · intro h
    obtain ⟨s, hs, hfresh⟩ := exists_fresh_name names
    have hdir := h (List.replicate (t.rise + 1) s) (isName_of_mem_replicate hs _)
    rw [reach, rdrop_replicate] at hdir
    cases names with
    | nil => rfl
    | cons name names =>
      rw [List.replicate_one, List.singleton_append, List.cons_prefix_cons] at hdir
      exact absurd (hdir.1 ▸ List.mem_cons_self ..) hfresh
  · rintro rfl dir -
    exact List.nil_prefix

theorem not_forall_reach_prefix (b : Route) (names : List (List Char)) :
    ¬ ∀ dir : List (List Char), (∀ s ∈ dir, IsName s) → b.reach dir <+: names := by
  intro h
  obtain ⟨s, hs, -⟩ := exists_fresh_name []
  have hlength := (h (List.replicate (b.rise + (names.length + 1)) s) (isName_of_mem_replicate hs _)).length_le
  rw [reach, rdrop_replicate, List.length_append, List.length_replicate] at hlength
  omega

end Route

theorem forall_wayTo_iff {P : List (List Char) → Prop} :
    (∀ dir : String, isAbsolute dir.toList = true → P (wayTo dir)) ↔
      ∀ dir : List (List Char), (∀ s ∈ dir, IsName s) → P dir := by
  constructor
  · intro h dir hdir
    have := h (absoluteText dir) (isAbsolute_absoluteText dir)
    rwa [wayTo_absoluteText hdir] at this
  · exact fun h dir _ => h (wayTo dir) isName_of_mem_wayTo

section
variable {b t : String}

theorem coversAnywhere_absolute (hb : isAbsolute b.toList = true) (ht : isAbsolute t.toList = true) :
    CoversAnywhere b t ↔ wayTo b <+: wayTo t := by
  unfold CoversAnywhere Covers
  simp only [resolution_of_isAbsolute _ hb, resolution_of_isAbsolute _ ht]
  exact ⟨fun h => h "/" (by decide), fun h _ _ => h⟩

theorem coversAnywhere_absolute_relative (hb : isAbsolute b.toList = true) (ht : isAbsolute t.toList = false) :
    CoversAnywhere b t ↔ wayTo b = [] := by
  unfold CoversAnywhere Covers
  simp only [resolution_of_isAbsolute _ hb, resolution_of_relative _ ht]
  exact forall_wayTo_iff.trans Route.forall_prefix_reach_iff

theorem not_coversAnywhere_relative_absolute (hb : isAbsolute b.toList = false) (ht : isAbsolute t.toList = true) :
    ¬ CoversAnywhere b t := by
  unfold CoversAnywhere Covers
  simp only [resolution_of_relative _ hb, resolution_of_isAbsolute _ ht]
  exact fun h => Route.not_forall_reach_prefix (route b) (wayTo t) (forall_wayTo_iff.mp h)

theorem coversAnywhere_relative (hb : isAbsolute b.toList = false) (ht : isAbsolute t.toList = false) :
    CoversAnywhere b t ↔ (route b).CoversAnywhere (route t) := by
  unfold CoversAnywhere Covers
  simp only [resolution_of_relative _ hb, resolution_of_relative _ ht]
  exact forall_wayTo_iff.trans Route.forall_reach_prefix_iff

end

instance (b t : String) : Decidable (CoversAnywhere b t) :=
  match hb : isAbsolute b.toList, ht : isAbsolute t.toList with
  | true, true => decidable_of_iff _ (coversAnywhere_absolute hb ht).symm
  | true, false => decidable_of_iff _ (coversAnywhere_absolute_relative hb ht).symm
  | false, true => isFalse (not_coversAnywhere_relative_absolute hb ht)
  | false, false => decidable_of_iff _ (coversAnywhere_relative hb ht).symm

/-! ## What is compared -/

namespace Route

def marks (r : Route) : List Component :=
  if r.kept = [] then [.here] else r.kept

/-- A climb without a name, against a route that rises otherwise; `.` against one that leads down. -/
def Misjudged (b t : Route) : Prop :=
  b.names = [] ∧ if b.rise = 0 then t.rise = 0 ∧ t.names ≠ [] else t.rise ≠ b.rise

instance (b t : Route) : Decidable (b.Misjudged t) :=
  inferInstanceAs (Decidable (_ ∧ if b.rise = 0 then _ else _))

theorem kept_prefix_iff {b t : Route} :
    b.kept <+: t.kept ↔ b.rise = t.rise ∧ b.names <+: t.names ∨ b.rise < t.rise ∧ b.names = [] := by
  have hinj : Function.Injective Component.name := fun _ _ e => Component.name.inj e
  rw [kept, kept, replicate_append_prefix_iff (by simp) (by simp), List.prefix_map_iff_of_injective hinj,
    List.map_eq_nil_iff]

theorem kept_eq_nil_iff {r : Route} : r.kept = [] ↔ r.rise = 0 ∧ r.names = [] := by
  simp [kept]

theorem marks_ne_nil (r : Route) : r.marks ≠ [] := by
  unfold marks
  split
  · exact List.cons_ne_nil _ _
  · assumption

theorem marks_prefix_iff {b t : Route} :
    b.marks <+: t.marks ↔ if b.kept = [] then t.kept = [] else b.kept <+: t.kept := by
  have hhere (r : Route) : Component.here ∉ r.kept := by simp [kept]
  unfold marks
  by_cases hb : b.kept = []
  · rw [if_pos hb, if_pos hb]
    by_cases ht : t.kept = []
    · simp [ht]
    · rw [if_neg ht]
      obtain ⟨c, cs, hcs⟩ := List.exists_cons_of_ne_nil ht
      have hc : Component.here ≠ c := fun h => hhere t (hcs ▸ h ▸ List.mem_cons_self ..)
      simp [hcs, hc]
  · rw [if_neg hb, if_neg hb]
    by_cases ht : t.kept = []
    · rw [if_pos ht, ht, List.prefix_nil]
      obtain ⟨c, cs, hcs⟩ := List.exists_cons_of_ne_nil hb
      have hc : c ≠ Component.here := fun h => hhere b (hcs ▸ h ▸ List.mem_cons_self ..)
      simp [hcs, hc]
    · rw [if_neg ht]

theorem marks_prefix_iff_coversAnywhere (b t : Route) :
    (b.marks <+: t.marks ↔ b.CoversAnywhere t) ↔ ¬ b.Misjudged t := by
  rw [marks_prefix_iff, kept_prefix_iff, CoversAnywhere, Misjudged]
  simp only [kept_eq_nil_iff]
  by_cases hnames : b.names = []
  · by_cases hrise : b.rise = 0
    · by_cases ht : t.rise = 0 <;> simp [hnames, hrise, ht, eq_comm]
    · simp [hnames, hrise]
      omega
  · simp [hnames]

end Route

theorem components_text {r : Route} (h : ∀ s ∈ r.names, IsName s) : components r.text.toList = r.marks := by
  have hsteps : r.segments.filterMap step? = r.kept := by
    rw [Route.segments, Route.kept, List.filterMap_append, filterMap_step?_names h]
    congr 1
    induction r.rise with
    | zero => rfl
    | succ k ih => rw [List.replicate_succ, List.filterMap_cons_some (by rfl), ih, List.replicate_succ]
  unfold components Route.marks
  rw [segments_eq_splitOn, splitOn_text h]
  simp only [isAbsolute_text h, Bool.false_eq_true, if_false]
  by_cases hseg : r.segments = []
  · rw [if_pos hseg, if_pos (segments_eq_nil_iff.mp hseg)]
    rfl
  · have hhead : r.segments.head? ≠ some ['.'] :=
      fun hhere => (leads_of_mem_segments h _ (List.mem_of_head? hhere)).2.1 rfl
    rw [if_neg hseg, if_neg (mt segments_eq_nil_iff.mpr hseg), hsteps, if_neg hhead]

/-- A relative path is misjudged against `/`, and against another without a name unless both rise alike. -/
def Misjudged (b t : String) : Prop :=
  isAbsolute t.toList = false ∧
    (normalize none b = "/" ∨ isAbsolute b.toList = false ∧ (route b).Misjudged (route t))

instance (b t : String) : Decidable (Misjudged b t) :=
  inferInstanceAs (Decidable (_ ∧ (_ ∨ _ ∧ _)))

theorem isWithin_text {b t : Route} (hb : ∀ s ∈ b.names, IsName s) (ht : ∀ s ∈ t.names, IsName s) :
    isWithin b.text t.text = true ↔ b.marks <+: t.marks := by
  rw [isWithin, components_text hb, components_text ht, List.isPrefixOf_iff_prefix]

theorem root_not_mem_marks (r : Route) : Component.root ∉ r.marks := by
  unfold Route.marks Route.kept
  split
  · simp
  · simp

theorem not_isWithin_absoluteText_text {names : List (List Char)} {r : Route} (hnames : ∀ s ∈ names, IsName s)
    (hr : ∀ s ∈ r.names, IsName s) : ¬ isWithin (absoluteText names) r.text = true := by
  rw [isWithin, components_absoluteText hnames, components_text hr, List.isPrefixOf_iff_prefix]
  exact fun h => root_not_mem_marks r (h.subset (List.mem_cons_self ..))

theorem not_isWithin_text_absoluteText {names : List (List Char)} {r : Route} (hnames : ∀ s ∈ names, IsName s)
    (hr : ∀ s ∈ r.names, IsName s) : ¬ isWithin r.text (absoluteText names) = true := by
  rw [isWithin, components_absoluteText hnames, components_text hr, List.isPrefixOf_iff_prefix]
  obtain ⟨c, cs, hcs⟩ := List.exists_cons_of_ne_nil r.marks_ne_nil
  rw [hcs, List.cons_prefix_cons]
  rintro ⟨rfl, -⟩
  exact root_not_mem_marks r (hcs ▸ List.mem_cons_self ..)

/-- **Without a current directory, containment is right for all but the misjudged paths,** and wrong
for these. -/
theorem isWithin_normalize_none_iff (b t : String) :
    (isWithin (normalize none b) (normalize none t) = true ↔ CoversAnywhere b t) ↔ ¬ Misjudged b t := by
  unfold Misjudged
  cases hb : isAbsolute b.toList with
  | true =>
    rw [normalize_of_isAbsolute none hb]
    cases ht : isAbsolute t.toList with
    | true =>
      rw [normalize_of_isAbsolute none ht, isWithin_absoluteText isName_of_mem_wayTo isName_of_mem_wayTo,
        coversAnywhere_absolute hb ht]
      simp
    | false =>
      have hno : ¬ isWithin (absoluteText (wayTo b)) (route t).text = true :=
        not_isWithin_absoluteText_text isName_of_mem_wayTo isName_of_mem_route
      rw [normalize_none_of_relative ht, coversAnywhere_absolute_relative hb ht, ← absoluteText_nil,
        absoluteText_inj isName_of_mem_wayTo (by simp)]
      simp [hno]
  | false =>
    rw [normalize_none_of_relative hb]
    cases ht : isAbsolute t.toList with
    | true =>
      have hno : ¬ isWithin (route b).text (absoluteText (wayTo t)) = true :=
        not_isWithin_text_absoluteText isName_of_mem_wayTo isName_of_mem_route
      rw [normalize_of_isAbsolute none ht]
      simp [hno, not_coversAnywhere_relative_absolute hb ht]
    | false =>
      have hroot : (route b).text ≠ "/" := by
        intro h
        have htext : isAbsolute (route b).text.toList = false := isAbsolute_text isName_of_mem_route
        rw [h] at htext
        exact absurd htext (by decide)
      rw [normalize_none_of_relative ht, isWithin_text isName_of_mem_route isName_of_mem_route,
        coversAnywhere_relative hb ht, Route.marks_prefix_iff_coversAnywhere]
      simp [hroot]

end PluginSandbox.Path
