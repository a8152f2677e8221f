import Mathlib.Data.List.Induction
import Mathlib.Data.Set.List
import SuiteCoverage.Session

/-!
# What options make of settings

Of all keys there are three that options can be set under, and of all values those fit that are a
list of plugins or a text that is not empty. `Fits` lists what there is, and an option is accepted
just if it is listed (`Setting.read_ok_iff`); a key that is none of the three is refused as a whole,
however many colons are in it.

An option that is refused changes nothing, and one that is accepted changes what its key stands for
and nothing else. So settings are told by the last option accepted under each key (`giveAll_eq`),
and neither the other options nor the order between keys matters.

The settings of a session stand for a list of boundaries, one for every time the plugin is named,
but all of them have the one marker there is. So the list comes down to a single question, whether
the plugin is named at all, and the earliest of its lines to the first with the marker.
-/

set_option autoImplicit false

namespace SuiteCoverage

/-! ## Options that are accepted -/

theorem Plugin.ofName_ok_iff {text : String} {plugin : Plugin} :
    ofName text = .ok plugin ↔ text = plugin.name := by
  cases plugin
  rw [ofName]
  split <;> simp_all

theorem except_bind_ok_iff {ε α β : Type} {x : Except ε α} {f : α → Except ε β} {b : β} :
    (x >>= f) = .ok b ↔ ∃ a, x = .ok a ∧ f a = .ok b := by
  cases x <;> simp [bind, Except.bind]

theorem Plugin.mapM_ofName_ok_iff {names : List String} {enabled : List Plugin} :
    names.mapM ofName = .ok enabled ↔ names = enabled.map name := by
  induction names generalizing enabled with
  | nil => cases enabled <;> simp [pure, Except.pure]
  | cons first rest ih =>
    rw [List.mapM_cons]
    simp only [except_bind_ok_iff, ofName_ok_iff, ih, pure, Except.pure, Except.ok.injEq]
    constructor
    · rintro ⟨plugin, rfl, others, rfl, rfl⟩
      rfl
    · intro h
      cases enabled with
      | nil => cases h
      | cons plugin others =>
        cases h
        exact ⟨plugin, rfl, others, rfl, rfl⟩

namespace Setting

variable {key before after : String} {value : OptionValue} {setting : Setting}

/-- The keys that there are. -/
def keys : List String :=
  ["run:plugins", "run:data_file", "exclude_until_coverage_plugin:marker"]

/-- An option that there is, a value that fits it, and what they say. -/
inductive Fits : String → OptionValue → Setting → Prop
  | plugins (enabled : List Plugin) :
      Fits "run:plugins" (.list (enabled.map Plugin.name)) (.plugins enabled)
  | dataFile {text : String} : text ≠ "" → Fits "run:data_file" (.text text) (.dataFile ⟨text⟩)
  | marker {text : String} : text ≠ "" →
      Fits "exclude_until_coverage_plugin:marker" (.text text) (.marker .boundary text)

/-- A key is divided at its first colon. -/
theorem splitKey?_eq_some (h : splitKey? key = some (before, after)) :
    key = before ++ ":" ++ after := by
  have hparts := List.takeWhile_append_dropWhile (p := (· != ':')) (l := key.toList)
  have hrest : key.toList.drop (key.toList.takeWhile (· != ':')).length
      = key.toList.dropWhile (· != ':') :=
    (congrArg (List.drop _) hparts).symm.trans List.drop_left
  simp only [splitKey?, hrest] at h
  cases hafter : key.toList.dropWhile (· != ':') with
  | nil => simp [hafter] at h
  | cons colon rest =>
    have hcolon : colon = ':' := by
      have hhead := List.head_dropWhile_not (· != ':') (l := key.toList) (by simp [hafter])
      simpa [hafter] using hhead
    simp only [hafter, Option.some.injEq, Prod.mk.injEq] at h
    obtain ⟨rfl, rfl⟩ := h
    rw [hafter, hcolon] at hparts
    rw [← String.toList_inj, String.toList_append, String.toList_append, String.toList_ofList,
      String.toList_ofList, List.append_assoc, String.toList_ofList]
    exact hparts.symm

theorem filledText_ok_iff {fault : ValueFault} {text : String} :
    filledText key fault value = .ok text ↔ value = .text text ∧ text ≠ "" := by
  cases value with
  | list names => simp [filledText]
  | text given =>
    rw [filledText]
    split
    · rename_i hempty
      simp only [reduceCtorEq, false_iff, not_and, OptionValue.text.injEq]
      rintro rfl
      simpa using hempty
    · rename_i hfilled
      simp only [Except.ok.injEq, OptionValue.text.injEq, iff_self_and]
      rintro rfl
      simpa using hfilled

theorem fits_of_read (h : Setting.read key value = .ok setting) : Fits key value setting := by
  unfold Setting.read at h
  split at h
  case h_1 => cases h
  case h_2 hkey =>
    obtain rfl := splitKey?_eq_some hkey
    simp only [except_bind_ok_iff, Plugin.mapM_ofName_ok_iff] at h
    obtain ⟨names, hlist, enabled, rfl, hsetting⟩ := h
    cases hsetting
    cases value with
    | text text => cases hlist
    | list names =>
      cases hlist
      exact .plugins enabled
  case h_3 hkey =>
    obtain rfl := splitKey?_eq_some hkey
    simp only [except_bind_ok_iff, filledText_ok_iff] at h
    obtain ⟨text, ⟨rfl, htext⟩, hsetting⟩ := h
    cases hsetting
    exact .dataFile htext
  case h_4 owner hkey =>
    obtain rfl := splitKey?_eq_some hkey
    split at h
    · cases h
    · rename_i plugin howner
      simp only [except_bind_ok_iff, filledText_ok_iff] at h
      obtain ⟨text, ⟨rfl, htext⟩, hsetting⟩ := h
      cases hsetting
      rw [Plugin.ofName_ok_iff] at howner
      subst howner
      cases plugin
      exact .marker htext
  case h_5 => cases h

theorem read_of_fits (h : Fits key value setting) : Setting.read key value = .ok setting := by
  cases h with
  | plugins enabled =>
    have hnames : (enabled.map Plugin.name).mapM Plugin.ofName = .ok enabled :=
      Plugin.mapM_ofName_ok_iff.2 rfl
    have hkey : splitKey? "run:plugins" = some ("run", "plugins") := by decide
    simp [Setting.read, hkey, list, hnames, bind, Except.bind, pure, Except.pure]
  | dataFile htext =>
    have hkey : splitKey? "run:data_file" = some ("run", "data_file") := by decide
    simp [Setting.read, hkey, filledText, htext, bind, Except.bind, pure, Except.pure]
  | marker htext =>
    have hkey : splitKey? "exclude_until_coverage_plugin:marker"
        = some ("exclude_until_coverage_plugin", "marker") := by decide
    have howner : Plugin.ofName "exclude_until_coverage_plugin" = .ok .boundary :=
      Plugin.ofName_ok_iff.2 rfl
    simp [Setting.read, hkey, howner, filledText, htext, bind, Except.bind, pure, Except.pure]

/-- An option is accepted just if there is one and the value fits it. -/
theorem read_ok_iff : read key value = .ok setting ↔ Fits key value setting :=
  ⟨fits_of_read, read_of_fits⟩

/-- What values fit, key by key. -/
theorem exists_fits_iff : (∃ setting, Fits key value setting) ↔
    key = "run:plugins" ∧ (∃ names, value = .list names ∧
      ∀ name ∈ names, ∃ plugin : Plugin, plugin.name = name) ∨
    key = "run:data_file" ∧ (∃ text, value = .text text ∧ text ≠ "") ∨
    key = "exclude_until_coverage_plugin:marker" ∧ ∃ text, value = .text text ∧ text ≠ "" := by
  constructor
  · rintro ⟨setting, hfits⟩
    cases hfits with
    | plugins enabled =>
      refine .inl ⟨rfl, _, rfl, fun name hname => ?_⟩
      obtain ⟨plugin, -, hplugin⟩ := List.mem_map.1 hname
      exact ⟨plugin, hplugin⟩
    | dataFile htext => exact .inr (.inl ⟨rfl, _, rfl, htext⟩)
    | marker htext => exact .inr (.inr ⟨rfl, _, rfl, htext⟩)
  · rintro (⟨rfl, names, rfl, hnames⟩ | ⟨rfl, text, rfl, htext⟩ | ⟨rfl, text, rfl, htext⟩)
    · have hrange : names ∈ Set.range (List.map Plugin.name) := by
        rw [Set.range_list_map]
        exact hnames
      obtain ⟨enabled, rfl⟩ := hrange
      exact ⟨_, .plugins enabled⟩
    · exact ⟨_, .dataFile htext⟩
    · exact ⟨_, .marker htext⟩

/-- A key that there is not is refused, whatever the value. -/
theorem read_of_not_mem_keys (h : key ∉ keys) :
    Setting.read key value = .error (.unknownOption key) := by
  unfold Setting.read
  split
  case h_1 => rfl
  case h_2 hkey =>
    obtain rfl := splitKey?_eq_some hkey
    exact absurd (by decide) h
  case h_3 hkey =>
    obtain rfl := splitKey?_eq_some hkey
    exact absurd (by decide) h
  case h_4 owner hkey =>
    obtain rfl := splitKey?_eq_some hkey
    split
    · rfl
    · rename_i plugin howner
      rw [Plugin.ofName_ok_iff] at howner
      subst howner
      cases plugin
      exact absurd (by decide) h
  case h_5 => rfl

/-! ## Options one after the other -/

/-- No option is accepted under a key. -/
def Never (key : String) (options : List (String × OptionValue)) : Prop :=
  ∀ value setting, (key, value) ∈ options → ¬ Fits key value setting

/-- What the last of the options that are accepted under a key says, if there is one. -/
def IsLast (key : String) (options : List (String × OptionValue)) : Option Setting → Prop
  | none => Never key options
  | some setting => ∃ earlier value later, options = earlier ++ (key, value) :: later ∧
      Fits key value setting ∧ Never key later

variable {options : List (String × OptionValue)} {last : Option Setting} {other : String}

theorem IsLast.never_iff (h : IsLast key options last) : Never key options ↔ last = none := by
  cases last with
  | none => exact iff_of_true h rfl
  | some setting =>
    obtain ⟨earlier, value, later, rfl, hfits, -⟩ := h
    refine iff_of_false (fun hnever => hnever value setting ?_ hfits) nofun
    exact List.mem_append_right earlier (List.mem_cons_self ..)

/-- What was accepted fits. -/
theorem IsLast.exists_fits (h : IsLast key options (some setting)) :
    ∃ key value, Fits key value setting := by
  obtain ⟨-, value, -, -, hfits, -⟩ := h
  exact ⟨key, value, hfits⟩

/-- An option that is accepted is the last. -/
theorem IsLast.concat_fits (options : List (String × OptionValue)) (h : Fits key value setting) :
    IsLast key (options ++ [(key, value)]) (some setting) :=
  ⟨options, value, [], rfl, h, nofun⟩

/-- An option that is refused, or has another key, changes nothing about the last. -/
theorem IsLast.concat (h : IsLast key options last)
    (hno : ∀ setting, other = key → ¬ Fits key value setting) :
    IsLast key (options ++ [(other, value)]) last := by
  have hnever {later : List (String × OptionValue)} (hlater : Never key later) :
      Never key (later ++ [(other, value)]) := by
    intro v s hmem
    rcases List.mem_append.1 hmem with hmem | hmem
    · exact hlater v s hmem
    · cases List.mem_singleton.1 hmem
      exact hno s rfl
  cases last with
  | none => exact hnever h
  | some setting =>
    obtain ⟨earlier, v, later, rfl, hfits, hlater⟩ := h
    refine ⟨earlier, v, later ++ [(other, value)], ?_, hfits, hnever hlater⟩
    rw [List.append_assoc, List.cons_append]

end Setting

namespace Settings

variable {settings next : Settings} {key : String} {value : OptionValue} {setting : Setting}

/-- The settings after an option was given, be it accepted or not. -/
def give (settings : Settings) (option : String × OptionValue) : Settings :=
  match settings.set option.1 option.2 with
  | .ok next => next
  | .error _ => settings

/-- The settings after options were given one after the other. -/
def giveAll (settings : Settings) (options : List (String × OptionValue)) : Settings :=
  options.foldl give settings

theorem set_ok_iff : settings.set key value = .ok next ↔
    ∃ setting, Setting.Fits key value setting ∧ settings.apply setting = next := by
  rw [set]
  cases hread : Setting.read key value with
  | error e =>
    simp only [Except.map, reduceCtorEq, ← Setting.read_ok_iff, hread, false_and, exists_false]
  | ok setting => simp [Except.map, ← Setting.read_ok_iff, hread]

theorem give_of_fits (h : Setting.Fits key value setting) :
    settings.give (key, value) = settings.apply setting := by
  rw [give, set_ok_iff.2 ⟨setting, h, rfl⟩]

theorem give_of_not_fits (h : ∀ setting, ¬ Setting.Fits key value setting) :
    settings.give (key, value) = settings := by
  unfold give
  split
  · rename_i next hset
    obtain ⟨setting, hfits, -⟩ := set_ok_iff.1 hset
    exact absurd hfits (h setting)
  · rfl

/-- Settings are told by the last option accepted under each key. -/
theorem giveAll_eq (settings : Settings) (options : List (String × OptionValue)) :
    ∃ (enabled? : Option (List Plugin)) (path? : Option Pathname) (text? : Option String),
      Setting.IsLast "run:plugins" options (enabled?.map .plugins) ∧
      Setting.IsLast "run:data_file" options (path?.map .dataFile) ∧
      Setting.IsLast "exclude_until_coverage_plugin:marker" options
        (text?.map (.marker .boundary)) ∧
      settings.giveAll options
        = ⟨settings.source, enabled?.getD settings.plugins, text?.or settings.marker,
            path?.getD settings.dataFile⟩ := by
  induction options using List.reverseRecOn with
  | nil => exact ⟨none, none, none, nofun, nofun, nofun, rfl⟩
  | append_singleton options option ih =>
    obtain ⟨enabled?, path?, text?, hplugins, hdata, hmarker, hall⟩ := ih
    obtain ⟨key, value⟩ := option
    have hstep : settings.giveAll (options ++ [(key, value)])
        = (settings.giveAll options).give (key, value) := by
      rw [giveAll, List.foldl_append]
      rfl
    rw [hstep, hall]
    by_cases hfits : ∃ setting, Setting.Fits key value setting
    · obtain ⟨setting, hfits⟩ := hfits
      rw [give_of_fits hfits]
      cases hfits with
      | plugins enabled =>
        refine ⟨some enabled, path?, text?, .concat_fits options (.plugins enabled),
          hdata.concat ?_, hmarker.concat ?_, rfl⟩
        all_goals exact fun _ hkey => absurd hkey (by decide)
      | dataFile htext =>
        refine ⟨enabled?, some ⟨_⟩, text?, hplugins.concat ?_,
          .concat_fits options (.dataFile htext), hmarker.concat ?_, rfl⟩
        all_goals exact fun _ hkey => absurd hkey (by decide)
      | marker htext =>
        refine ⟨enabled?, path?, some _, hplugins.concat ?_, hdata.concat ?_,
          .concat_fits options (.marker htext), rfl⟩
        all_goals exact fun _ hkey => absurd hkey (by decide)
    · rw [give_of_not_fits (not_exists.1 hfits)]
      refine ⟨enabled?, path?, text?, hplugins.concat ?_, hdata.concat ?_, hmarker.concat ?_, rfl⟩
      all_goals
        rintro setting rfl h
        exact hfits ⟨setting, h⟩

/-- Options under different keys can be given in either order. -/
theorem give_comm (settings : Settings) {first second : String × OptionValue}
    (h : first.1 ≠ second.1) :
    (settings.give first).give second = (settings.give second).give first := by
  obtain ⟨key, value⟩ := first
  obtain ⟨key', value'⟩ := second
  by_cases hfirst : ∃ setting, Setting.Fits key value setting
  · by_cases hsecond : ∃ setting, Setting.Fits key' value' setting
    · obtain ⟨setting, hfirst⟩ := hfirst
      obtain ⟨setting', hsecond⟩ := hsecond
      simp only [give_of_fits hfirst, give_of_fits hsecond]
      cases hfirst <;> cases hsecond <;> first | rfl | exact absurd rfl h
    · simp only [give_of_not_fits (not_exists.1 hsecond)]
  · simp only [give_of_not_fits (not_exists.1 hfirst)]

end Settings

/-! ## Where a file is cut off -/

/-- The first line that settings leave out of a file with the given source. -/
def Settings.cutoff? (settings : Settings) (source : Except Fault String) : Option LineNumber :=
  match settings.plugins, settings.marker, source with
  | _ :: _, some marker, .ok text => Boundary.start? ⟨marker⟩ text
  | _, _, _ => none

namespace Settings

theorem boundaries_of_marker {settings : Settings} {marker : String}
    (h : settings.marker = some marker) :
    settings.boundaries = .ok (List.replicate settings.plugins.length ⟨marker⟩) := by
  unfold boundaries
  induction settings.plugins with
  | nil => rfl
  | cons plugin rest ih =>
    have hplugin : settings.boundary plugin = .ok ⟨marker⟩ := by
      cases plugin
      rw [boundary, h]
    rw [List.mapM_cons, hplugin, ih]
    rfl

/-- Without a marker there are boundaries only if no plugin asks for one. -/
theorem plugins_eq_nil_of_boundaries {settings : Settings} {boundaries : List Boundary}
    (h : settings.boundaries = .ok boundaries) (hmarker : settings.marker = none) :
    settings.plugins = [] := by
  unfold Settings.boundaries at h
  cases hplugins : settings.plugins with
  | nil => rfl
  | cons plugin rest =>
    have hplugin : ∃ e, settings.boundary plugin = .error e := by
      cases plugin
      exact ⟨_, by rw [boundary, hmarker]⟩
    obtain ⟨e, he⟩ := hplugin
    rw [hplugins, List.mapM_cons, he] at h
    cases h

/-- There are no boundaries if a plugin is enabled that lacks its marker. -/
theorem boundaries_error_iff {settings : Settings} {e : CoverageError} :
    settings.boundaries = .error e ↔
      settings.plugins ≠ [] ∧ settings.marker = none ∧
        e = .invalidValue "exclude_until_coverage_plugin:marker" .required := by
  cases hmarker : settings.marker with
  | some marker => simp [boundaries_of_marker hmarker]
  | none =>
    have hplugin (plugin : Plugin) : settings.boundary plugin
        = .error (.invalidValue "exclude_until_coverage_plugin:marker" .required) := by
      cases plugin
      rw [boundary, hmarker]
      rfl
    cases hplugins : settings.plugins with
    | nil => simp [boundaries, hplugins, pure, Except.pure]
    | cons plugin rest =>
      rw [boundaries, hplugins, List.mapM_cons, hplugin]
      simp [bind, Except.bind, eq_comm]

end Settings

/-- The same boundary many times is that boundary. -/
theorem Boundary.earliest?_replicate (boundary : Boundary) (source : String) {n : Nat}
    (hn : 0 < n) : earliest? (List.replicate n boundary) source = boundary.start? source := by
  unfold earliest?
  cases hstart : boundary.start? source with
  | none => simp [hstart]
  | some line =>
    have hlines : (List.replicate n boundary).filterMap (fun b => b.start? source)
        = List.replicate n line := List.filterMap_replicate_of_some hstart
    rw [hlines, List.min?_replicate_of_pos hn]

/-- What the boundaries of settings leave out of a file is what the settings cut off. -/
theorem Session.boundaryOf_eq_cutoff? {settings : Settings} {boundaries : List Boundary}
    (h : settings.boundaries = .ok boundaries) (w : World) (p : Pathname) :
    boundaryOf w boundaries p = settings.cutoff? (w.readText p) := by
  unfold boundaryOf Settings.cutoff?
  cases w.readText p with
  | error fault =>
    cases settings.plugins <;> cases settings.marker <;> rfl
  | ok text =>
    cases hmarker : settings.marker with
    | none =>
      have hplugins := Settings.plugins_eq_nil_of_boundaries h hmarker
      rw [Settings.boundaries, hplugins] at h
      cases h
      rw [hplugins]
      rfl
    | some marker =>
      rw [Settings.boundaries_of_marker hmarker] at h
      cases h
      cases hplugins : settings.plugins with
      | nil => rfl
      | cons plugin rest => exact Boundary.earliest?_replicate _ _ (by simp)

/-! ## Settings and options -/

/-- Which options are accepted, and what they make of the settings that a source starts with. An
    option is accepted if it is one of three with a value that fits, and all other keys are refused.
    Each setting is that of the last option accepted under its key, or what it was at first. So the
    marker and the data file are never empty, there are no boundaries just if a plugin is enabled and
    no marker was ever accepted, and options under different keys can change places. -/
theorem Settings.told_by_last_accepted (source : List String)
    (options : List (String × OptionValue)) :
    let settings := (ofSource source).giveAll options
    (∀ (before : Settings) key value,
      ((∃ next, before.set key value = .ok next) ↔
        key = "run:plugins" ∧ (∃ names, value = .list names ∧
          ∀ name ∈ names, ∃ plugin : Plugin, plugin.name = name) ∨
        key = "run:data_file" ∧ (∃ text, value = .text text ∧ text ≠ "") ∨
        key = "exclude_until_coverage_plugin:marker" ∧ ∃ text, value = .text text ∧ text ≠ "") ∧
      (key ∉ Setting.keys → before.set key value = .error (.unknownOption key)) ∧
      ((∃ e, before.set key value = .error e) → before.give (key, value) = before)) ∧
    (∃ (enabled? : Option (List Plugin)) (path? : Option Pathname) (text? : Option String),
      Setting.IsLast "run:plugins" options (enabled?.map .plugins) ∧
      Setting.IsLast "run:data_file" options (path?.map .dataFile) ∧
      Setting.IsLast "exclude_until_coverage_plugin:marker" options
        (text?.map (.marker .boundary)) ∧
      settings = ⟨source, enabled?.getD [], text?, path?.getD ⟨".coverage"⟩⟩) ∧
    settings.marker ≠ some "" ∧ settings.dataFile ≠ ⟨""⟩ ∧
    ((∃ e, settings.boundaries = .error e) ↔ settings.plugins ≠ [] ∧
      Setting.Never "exclude_until_coverage_plugin:marker" options) ∧
    ∀ (before : Settings) earlier first second later, first.1 ≠ second.1 →
      before.giveAll (earlier ++ first :: second :: later)
        = before.giveAll (earlier ++ second :: first :: later) := by
  intro settings
  obtain ⟨enabled?, path?, text?, hplugins, hdata, hmarker, hall⟩ :=
    giveAll_eq (ofSource source) options
  have hsettings : settings = ⟨source, enabled?.getD [], text?, path?.getD ⟨".coverage"⟩⟩ := by
    refine hall.trans ?_
    rw [ofSource, Option.or_none]
    rfl
  refine ⟨fun before key value => ⟨?_, ?_, ?_⟩,
    ⟨enabled?, path?, text?, hplugins, hdata, hmarker, hsettings⟩, ?_, ?_, ?_, ?_⟩
  · rw [← Setting.exists_fits_iff]
    simp only [set_ok_iff]
    exact ⟨fun ⟨_, setting, hfits, _⟩ => ⟨setting, hfits⟩,
      fun ⟨setting, hfits⟩ => ⟨_, setting, hfits, rfl⟩⟩
  · intro hkey
    rw [set, Setting.read_of_not_mem_keys hkey]
    rfl
  · rintro ⟨e, he⟩
    rw [give, he]
  · rw [hsettings]
    rintro rfl
    obtain ⟨_, _, hfits⟩ := hmarker.exists_fits
    cases hfits with
    | marker htext => exact htext rfl
  · rw [hsettings]
    cases path? with
    | none =>
      show (⟨".coverage"⟩ : Pathname) ≠ ⟨""⟩
      decide
    | some path =>
      rintro rfl
      obtain ⟨_, _, hfits⟩ := hdata.exists_fits
      cases hfits with
      | dataFile htext => exact htext rfl
  · simp only [boundaries_error_iff, hmarker.never_iff, Option.map_eq_none_iff, exists_and_left,
      exists_eq, and_true]
    rw [hsettings]
  · intro before earlier first second later hne
    simp only [giveAll, List.foldl_append, List.foldl_cons, give_comm _ hne]

/-- Options of which only some are accepted: a key with two colons is none, and neither is a text
    that is empty. -/
def mixedOptions : List (String × OptionValue) :=
  [("run:plugins", .list ["exclude_until_coverage_plugin"]), ("run:plugins:", .list []),
    ("exclude_until_coverage_plugin:marker", .text "// generated"), ("run:data_file", .text ""),
    ("run:data_file", .text "first"), ("run:marker", .text "// other"),
    ("run:data_file", .text "second"), ("run:plugins", .list ["no_plugin"])]

/-- Settings of which each has been given, and the same with two of the options in another order. -/
theorem Settings.told_by_last_accepted_mixed :
    let settings : Settings := ⟨["lib"], [.boundary], some "// generated", ⟨"second"⟩⟩
    (ofSource ["lib"]).giveAll mixedOptions = settings ∧
      (ofSource ["lib"]).set "run:plugins:" (.list []) = .error (.unknownOption "run:plugins:") ∧
      settings.give ("run:data_file", .text "") = settings ∧
      settings.giveAll [("run:plugins", .list []), ("run:data_file", .text "third")]
        = settings.giveAll [("run:data_file", .text "third"), ("run:plugins", .list [])] := by
  have hsettings : (ofSource ["lib"]).giveAll mixedOptions
      = ⟨["lib"], [.boundary], some "// generated", ⟨"second"⟩⟩ := by decide +kernel
  obtain ⟨haccepted, -, -, -, -, hswap⟩ := told_by_last_accepted ["lib"] mixedOptions
  obtain ⟨-, hunknown, -⟩ := haccepted (ofSource ["lib"]) "run:plugins:" (.list [])
  obtain ⟨-, -, hkept⟩ := haccepted ⟨["lib"], [.boundary], some "// generated", ⟨"second"⟩⟩
    "run:data_file" (.text "")
  refine ⟨hsettings, hunknown (by decide), hkept ⟨_, rfl⟩, hswap _ [] _ _ [] (by decide)⟩

end SuiteCoverage
