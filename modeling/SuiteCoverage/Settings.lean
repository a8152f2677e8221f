import SuiteCoverage.Boundary
import SuiteCoverage.Error

/-!
# Settings of a measurement

What is measured and how: the modules, the plugins that are enabled, the marker of the boundary
and the data file. Apart from the modules, settings are changed by options, which have a key of
the form `section:name` and a value that is a text or a list of texts. Only the options below
exist; a key that is none of them is refused.

An option is first understood, which tells all that may be wrong with it, and then applied,
which cannot fail.
-/

set_option autoImplicit false

namespace SuiteCoverage

/-- What can be enabled. -/
inductive Plugin where
  /-- Leaves out what stands behind a marker. -/
  | boundary
deriving DecidableEq, Repr

namespace Plugin

/-- The name under which a plugin is enabled. -/
def name : Plugin → String
  | boundary => Boundary.name

/-- The plugin with a given name. -/
def ofName (text : String) : Except CoverageError Plugin :=
  if text = boundary.name then .ok boundary else .error (.unknownPlugin text)

end Plugin

/-- The value given for an option. -/
inductive OptionValue where
  | text (value : String)
  | list (values : List String)
deriving DecidableEq, Repr

/-- An option with a value that fits. -/
inductive Setting where
  | plugins (enabled : List Plugin)
  | dataFile (path : Pathname)
  | marker (plugin : Plugin) (text : String)
deriving DecidableEq, Repr

namespace Setting

/-- The key under which plugins are enabled. -/
def pluginsKey : String := "run:plugins"

/-- The key of the marker of a plugin. -/
def markerKey (plugin : Plugin) : String := plugin.name ++ ":marker"

/-- The section and the name in a key, which the first colon divides. -/
def splitKey? (key : String) : Option (String × String) :=
  let before := key.toList.takeWhile (· != ':')
  match key.toList.drop before.length with
  | [] => none
  | _ :: after => some (String.ofList before, String.ofList after)

/-- The list that a value is. -/
def list (key : String) : OptionValue → Except CoverageError (List String)
  | .list values => .ok values
  | .text _ => .error (.invalidValue key .listExpected)

/-- The text that a value is; `fault` is what is wrong with an empty one. -/
def filledText (key : String) (fault : ValueFault) : OptionValue → Except CoverageError String
  | .list _ => .error (.invalidValue key .textExpected)
  | .text value => if value.isEmpty then .error (.invalidValue key fault) else .ok value

/-- Understands an option. -/
def read (key : String) (value : OptionValue) : Except CoverageError Setting :=
  match splitKey? key with
  | none => .error (.unknownOption key)
  | some ("run", "plugins") => do
    let names ← list key value
    let enabled ← names.mapM Plugin.ofName
    pure (.plugins enabled)
  | some ("run", "data_file") => do
    let path ← filledText key .empty value
    pure (.dataFile ⟨path⟩)
  | some (owner, "marker") =>
    match Plugin.ofName owner with
    | .error _ => .error (.unknownOption key)
    | .ok plugin => do
      let text ← filledText key .emptyMarker value
      pure (.marker plugin text)
  | some _ => .error (.unknownOption key)

end Setting

/-- What is measured and how. -/
structure Settings where
  source : List String
  plugins : List Plugin
  marker : Option String
  dataFile : Pathname
deriving DecidableEq, Repr

namespace Settings

/-- The data file unless an option names another. -/
def defaultDataFile : Pathname := ⟨".coverage"⟩

/-- The settings with which the given modules are measured as long as no option is set. -/
def ofSource (source : List String) : Settings :=
  ⟨source, [], none, defaultDataFile⟩

/-- The settings with an option applied. -/
def apply (settings : Settings) : Setting → Settings
  | .plugins enabled => { settings with plugins := enabled }
  | .dataFile path => { settings with dataFile := path }
  | .marker .boundary text => { settings with marker := some text }

/-- Sets the option with the given key. -/
def set (settings : Settings) (key : String) (value : OptionValue) :
    Except CoverageError Settings :=
  (Setting.read key value).map settings.apply

/-- The rule that an enabled plugin stands for. -/
def boundary (settings : Settings) : Plugin → Except CoverageError Boundary
  | .boundary =>
    match settings.marker with
    | some text => .ok ⟨text⟩
    | none => .error (.invalidValue (Setting.markerKey .boundary) .required)

/-- The rules of all enabled plugins. -/
def boundaries (settings : Settings) : Except CoverageError (List Boundary) :=
  settings.plugins.mapM settings.boundary

end Settings
end SuiteCoverage
