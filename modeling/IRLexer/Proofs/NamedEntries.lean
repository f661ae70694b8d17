import IRLexer.Config

/-!
# Configurations from named entries

A dictionary gives a configuration its options; an option that it does not name keeps its default.
Names of no option are rejected only on request, and then all of them in order.  Neither the order
of the entries nor the entry of any option has a say in what is rejected.
-/

namespace IRLexer

theorem UnknownOptions.names_suffix_message (unknown : UnknownOptions) :
    (", ".intercalate unknown.names).toList <:+ unknown.message.toList := by
  have hback (front back : String) : back.toList <:+ (front ++ back).toList := by
    rw [String.toList_append]
    exact List.suffix_append _ _
  exact hback _ _

namespace Config

def entries (config : Config) : List (String × Setting) :=
  [
    ("skip_comments", .flag config.skipComments), ("strict", .flag config.strict),
    ("source_file", .file config.sourceFile)
  ]

/-- No name stands twice, and an option has a setting that some configuration has for it. -/
structure IsDictionary (entries : List (String × Setting)) : Prop where
  distinct : (entries.map Prod.fst).Nodup
  wellTyped : ∀ name ∈ optionNames, ∀ setting, entries.lookup name = some setting →
    ∃ config : Config, config.entries.lookup name = some setting

variable {entries others : List (String × Setting)} {name : String} {setting : Setting}

theorem lookup_eq_some_iff_mem (h : (entries.map Prod.fst).Nodup) :
    entries.lookup name = some setting ↔ (name, setting) ∈ entries := by
  induction entries with
  | nil => simp
  | cons entry later ih =>
      obtain ⟨key, value⟩ := entry
      rw [List.map_cons, List.nodup_cons] at h
      obtain ⟨habsent, hdistinct⟩ := h
      by_cases hkey : name = key
      · subst hkey
        have hlater : (name, setting) ∉ later := fun hmem =>
          habsent (List.mem_map.mpr ⟨_, hmem, rfl⟩)
        simp [hlater, eq_comm]
      · rw [List.lookup_cons, beq_false_of_ne hkey, ih hdistinct]
        simp [hkey]

theorem lookup_eq_of_perm (hperm : others.Perm entries) (h : (entries.map Prod.fst).Nodup)
    (name : String) : others.lookup name = entries.lookup name := by
  have hothers : (others.map Prod.fst).Nodup := (hperm.map Prod.fst).nodup_iff.mpr h
  apply Option.ext
  intro setting
  rw [lookup_eq_some_iff_mem hothers, lookup_eq_some_iff_mem h, hperm.mem_iff]

theorem unknownNames_perm (entries : List (String × Setting)) :
    (unknownNames entries).Perm ((entries.map Prod.fst).filter (· ∉ optionNames)) :=
  List.mergeSort_perm _ _

theorem mem_unknownNames :
    name ∈ unknownNames entries ↔ name ∈ entries.map Prod.fst ∧ name ∉ optionNames := by
  rw [(unknownNames_perm entries).mem_iff, List.mem_filter, decide_eq_true_eq]

theorem unknownNames_sorted (entries : List (String × Setting)) :
    (unknownNames entries).Pairwise (· ≤ ·) := by
  have htrans (first second third : String) :
      decide (first ≤ second) = true → decide (second ≤ third) = true →
        decide (first ≤ third) = true := by
    simpa only [decide_eq_true_eq] using String.le_trans
  have htotal (first second : String) :
      (decide (first ≤ second) || decide (second ≤ first)) = true := by
    simpa only [Bool.or_eq_true, decide_eq_true_eq] using String.le_total first second
  exact (List.pairwise_mergeSort htrans htotal _).imp of_decide_eq_true

theorem unknownNames_ascending (h : (entries.map Prod.fst).Nodup) :
    (unknownNames entries).Pairwise (· < ·) := by
  have hdistinct : (unknownNames entries).Nodup :=
    (unknownNames_perm entries).nodup_iff.mpr (h.filter _)
  refine ((unknownNames_sorted entries).and hdistinct).imp ?_
  rintro first second ⟨hle, hne⟩
  exact String.not_le.mp fun hge => hne (String.le_antisymm hle hge)

theorem unknownNames_eq_of_perm (h : others.Perm entries) :
    unknownNames others = unknownNames entries := by
  have hperm : (unknownNames others).Perm (unknownNames entries) :=
    (unknownNames_perm others).trans
      (((h.map Prod.fst).filter _).trans (unknownNames_perm entries).symm)
  exact hperm.eq_of_pairwise (fun _ _ _ _ => String.le_antisymm) (unknownNames_sorted others)
    (unknownNames_sorted entries)

theorem unknownNames_filter_ne {option : String} (h : option ∈ optionNames)
    (entries : List (String × Setting)) :
    unknownNames (entries.filter fun entry => entry.1 ≠ option) = unknownNames entries := by
  have hkeep (name : String) (hname : name ∉ optionNames) : name ≠ option := by
    rintro rfl
    exact hname h
  unfold unknownNames
  congr 1
  rw [List.filter_map, List.filter_map, List.filter_filter]
  congr 1
  apply List.filter_congr
  intro entry _
  by_cases hname : entry.1 ∈ optionNames <;> simp [hname, hkeep]

/-! ## The configuration of a dictionary -/

theorem ofEntries_eq_error_iff {rejectUnknown : Bool} {unknown : UnknownOptions} :
    ofEntries entries rejectUnknown = .error unknown ↔
      rejectUnknown = true ∧ unknownNames entries ≠ [] ∧ unknown = ⟨unknownNames entries⟩ := by
  unfold ofEntries
  cases rejectUnknown <;> cases hnames : unknownNames entries <;> simp [eq_comm]

theorem lookup_entries (config : Config) :
    config.entries.lookup "skip_comments" = some (.flag config.skipComments) ∧
      config.entries.lookup "strict" = some (.flag config.strict) ∧
      config.entries.lookup "source_file" = some (.file config.sourceFile) :=
  ⟨rfl, rfl, rfl⟩

theorem IsDictionary.some_make_getD_read (h : IsDictionary entries) (hname : name ∈ optionNames)
    {Value : Type} {value : Config → Value} {make : Value → Setting}
    (hmake : ∀ config : Config, config.entries.lookup name = some (make (value config)))
    {read : Setting → Option Value} (hread : ∀ made, read (make made) = some made)
    (fallback : Value) :
    some (make (((entries.lookup name).bind read).getD fallback)) =
      (entries.lookup name).or (some (make fallback)) := by
  cases hfound : entries.lookup name with
  | none => rfl
  | some setting =>
      obtain ⟨config, hconfig⟩ := h.wellTyped name hname setting hfound
      rw [hmake, Option.some.injEq] at hconfig
      rw [← hconfig, Option.bind_some, hread, Option.getD_some, Option.some_or]

theorem lookup_entries_ofKnownEntries (h : IsDictionary entries) (hname : name ∈ optionNames) :
    (ofKnownEntries entries).entries.lookup name =
      (entries.lookup name).or (({} : Config).entries.lookup name) := by
  have hcases : name = "skip_comments" ∨ name = "strict" ∨ name = "source_file" := by
    simpa [optionNames] using hname
  rcases hcases with rfl | rfl | rfl
  · rw [(lookup_entries _).1, (lookup_entries _).1]
    exact h.some_make_getD_read hname (fun config => (lookup_entries config).1) (fun _ => rfl) false
  · rw [(lookup_entries _).2.1, (lookup_entries _).2.1]
    exact h.some_make_getD_read hname (fun config => (lookup_entries config).2.1) (fun _ => rfl)
      false
  · rw [(lookup_entries _).2.2, (lookup_entries _).2.2]
    exact h.some_make_getD_read hname (fun config => (lookup_entries config).2.2) (fun _ => rfl)
      none

theorem ofEntries_eq_of_perm (h : others.Perm entries) (hdistinct : (entries.map Prod.fst).Nodup)
    (rejectUnknown : Bool) : ofEntries others rejectUnknown = ofEntries entries rejectUnknown := by
  simp only [ofEntries, ofKnownEntries, unknownNames_eq_of_perm h, lookup_eq_of_perm h hdistinct]

/--
A dictionary is rejected exactly if that is asked for and it names something that is no option, and
the error lists such names in ascending order, each once.  Any other dictionary gives a
configuration with its settings and the defaults for the options that it leaves out.  The order of
the entries makes no difference, and the entry of the option `strict` none to what is rejected.
-/
theorem dictionary_settles_config {entries : List (String × Setting)} (h : IsDictionary entries)
    (rejectUnknown : Bool) :
    ((∃ unknown, ofEntries entries rejectUnknown = .error unknown) ↔
      rejectUnknown = true ∧ ∃ name ∈ entries.map Prod.fst, name ∉ optionNames) ∧
    (∀ unknown, ofEntries entries rejectUnknown = .error unknown →
      unknown.names.Pairwise (· < ·) ∧
      (∀ name, name ∈ unknown.names ↔ name ∈ entries.map Prod.fst ∧ name ∉ optionNames) ∧
      (", ".intercalate unknown.names).toList <:+ unknown.message.toList) ∧
    ((rejectUnknown = false ∨ ∀ name ∈ entries.map Prod.fst, name ∈ optionNames) →
      ∃ config, ofEntries entries rejectUnknown = .ok config ∧
        ∀ name ∈ optionNames, config.entries.lookup name =
          (entries.lookup name).or (({} : Config).entries.lookup name)) ∧
    (∀ others, others.Perm entries →
      ofEntries others rejectUnknown = ofEntries entries rejectUnknown) ∧
    ∀ others : List (String × Setting),
      (others.filter fun entry => entry.1 ≠ "strict").Perm
        (entries.filter fun entry => entry.1 ≠ "strict") →
      ∀ unknown, ofEntries others rejectUnknown = .error unknown ↔
        ofEntries entries rejectUnknown = .error unknown := by
  have hsome : unknownNames entries ≠ [] ↔ ∃ name ∈ entries.map Prod.fst, name ∉ optionNames := by
    rw [← List.isEmpty_eq_false_iff, List.isEmpty_eq_false_iff_exists_mem]
    simp only [mem_unknownNames]
  refine ⟨?_, ?_, ?_, ?_, ?_⟩
  · simp only [ofEntries_eq_error_iff, exists_and_left, exists_eq, and_true, hsome]
  · intro unknown hunknown
    obtain ⟨-, -, rfl⟩ := ofEntries_eq_error_iff.mp hunknown
    exact ⟨unknownNames_ascending h.distinct, fun name => mem_unknownNames,
      UnknownOptions.names_suffix_message _⟩
  · intro haccepted
    refine ⟨ofKnownEntries entries, ?_, fun name => lookup_entries_ofKnownEntries h⟩
    cases hresult : ofEntries entries rejectUnknown with
    | error unknown =>
        obtain ⟨hreject, hnames, -⟩ := ofEntries_eq_error_iff.mp hresult
        obtain ⟨name, hname, hother⟩ := hsome.mp hnames
        rcases haccepted with hlenient | hknown
        · exact absurd (hreject.symm.trans hlenient) (by decide)
        · exact absurd (hknown name hname) hother
    | ok config =>
        unfold ofEntries at hresult
        split at hresult
        · contradiction
        · exact hresult.symm
  · intro others hperm
    exact ofEntries_eq_of_perm hperm h.distinct rejectUnknown
  · intro others hperm unknown
    have hstrict : "strict" ∈ optionNames := by decide
    have hnames : unknownNames others = unknownNames entries := by
      rw [← unknownNames_filter_ne hstrict others, unknownNames_eq_of_perm hperm,
        unknownNames_filter_ne hstrict]
    rw [ofEntries_eq_error_iff, ofEntries_eq_error_iff, hnames]

theorem dictionary_settles_config_strict :
    IsDictionary [("z", .other), ("strict", .flag true), ("a", .other)] ∧
    (∃ unknown,
      ofEntries [("z", .other), ("strict", .flag true), ("a", .other)] true = .error unknown ∧
        unknown.names.Pairwise (· < ·) ∧ "a" ∈ unknown.names ∧
        ofEntries [("a", .other), ("z", .other)] true = .error unknown) ∧
    ofEntries [("strict", .flag true), ("a", .other), ("z", .other)] true =
      ofEntries [("z", .other), ("strict", .flag true), ("a", .other)] true ∧
    ∃ config,
      ofEntries [("z", .other), ("strict", .flag true), ("a", .other)] false = .ok config ∧
        config.entries.lookup "strict" = some (.flag true) := by
  have hdictionary : IsDictionary [("z", .other), ("strict", .flag true), ("a", .other)] := by
    refine ⟨by decide, ?_⟩
    intro name hname setting hsetting
    simp only [optionNames, List.mem_cons, List.not_mem_nil, or_false] at hname
    rcases hname with rfl | rfl | rfl
    · cases hsetting
    · exact ⟨{ strict := true }, hsetting⟩
    · cases hsetting
  obtain ⟨hrejected, herror, -, horder, hother⟩ := dictionary_settles_config hdictionary true
  obtain ⟨unknown, hunknown⟩ := hrejected.mpr ⟨rfl, "z", by decide, by decide⟩
  obtain ⟨hascending, hnames, -⟩ := herror unknown hunknown
  obtain ⟨-, -, haccepted, -⟩ := dictionary_settles_config hdictionary false
  obtain ⟨config, hconfig, hsettings⟩ := haccepted (.inl rfl)
  refine ⟨hdictionary, ⟨unknown, hunknown, hascending, ?_, ?_⟩, ?_, config, hconfig, ?_⟩
  · exact (hnames "a").mpr ⟨by decide, by decide⟩
  · exact (hother _ (by decide) unknown).mpr hunknown
  · exact horder _ (by decide)
  · exact hsettings "strict" (by decide)

end Config

end IRLexer
