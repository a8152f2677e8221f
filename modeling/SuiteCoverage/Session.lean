import SuiteCoverage.Collector
import SuiteCoverage.Measurement
import SuiteCoverage.Report.Pages
import SuiteCoverage.Report.Table
import SuiteCoverage.Scope
import SuiteCoverage.Settings
import SuiteCoverage.Stream

/-!
# Sessions

A session measures. It is configured first, then started and stopped, and may be started and
stopped again; the counts of all its rounds add up. Options can be set only before it has been
started for the first time, and what was measured can be had only while it is stopped.

A session is stopped as soon as its collector has finished. Only then are the boundaries asked for
once more, and the measurement is kept last of all. That they are there, and that there is a
measurement whenever a session is stopped, is not in the types; it holds of every session that
has come about by the operations below.
-/

set_option autoImplicit false

namespace SuiteCoverage

/-- Where a session is in its life. -/
inductive Stage where
  | configured
  | started
  | stopped
deriving DecidableEq, Repr

namespace Stage

/-- What a stage is called. -/
def name : Stage → String
  | configured => "configured"
  | started => "started"
  | stopped => "stopped"

end Stage

/-- A measurement in progress, made with a collector whose state is a `κ`. -/
structure Session (κ : Type) where
  settings : Settings
  collector : κ
  stage : Stage
  objects : List Pathname
  hits : HitTable
  /-- What was measured when the session was stopped last. -/
  measured : Option Measurement

namespace Session

variable {κ σ : Type}

/-- A session that has only been configured. -/
def ofSettings (settings : Settings) (collector : κ) : Session κ :=
  ⟨settings, collector, .configured, [], OrderedMap.empty, none⟩

/-- The error of a session that is not in the stage expected. -/
def misplaced (session : Session κ) (expected : String) : CoverageError :=
  .invalidState expected session.stage.name

/-- Requires a session to be in a stage. -/
def expect (session : Session κ) (stage : Stage) : Except CoverageError Unit :=
  if session.stage = stage then .ok () else .error (session.misplaced stage.name)

/-! ## Preparing -/

/-- Sets an option. -/
def setOption (session : Session κ) (key : String) (value : OptionValue) :
    Except CoverageError (Session κ) := do
  session.expect .configured
  let settings ← session.settings.set key value
  return { session with settings }

/-- A list of paths with another one at its end, unless the same path is there already. -/
def insertObject (objects : List Pathname) (object : Pathname) : List Pathname :=
  if objects.any object.same then objects else objects ++ [object]

/-- Adds objects that the counts are mapped onto. -/
def addObjects (session : Session κ) (objects : List Pathname) : Session κ :=
  { session with objects := objects.foldl insertObject session.objects }

/-! ## Measuring -/

/-- Starts the session. Mistakes in its settings show before anything is counted. -/
def start (collector : Collector κ) (session : Session κ) (w : World) :
    Except CoverageError Unit × Session κ × World :=
  if session.stage = .started then
    (.error (session.misplaced "configured or stopped"), session, w)
  else
    match session.settings.boundaries with
    | .error e => (.error e, session, w)
    | .ok _ =>
      match w.currentDirectory with
      | .error fault => (.error (.io ⟨"."⟩ fault), session, w)
      | .ok directory =>
        match collector.begin directory session.collector w with
        | (.error e, state, next) => (.error e, { session with collector := state }, next)
        | (.ok (), state, next) =>
          (.ok (), { session with collector := state, stage := .started }, next)

/-- The first line of a file that the boundaries leave out. A source that cannot be read has no
    such line. -/
def boundaryOf (w : World) (boundaries : List Boundary) (p : Pathname) : Option LineNumber :=
  match w.readText p with
  | .ok source => Boundary.earliest? boundaries source
  | .error _ => none

/-- The counts so far and those of the files in scope. -/
def gather (scope : Scope) (hits : HitTable) (files : List FileHits) : HitTable :=
  (files.filter fun file => scope.covers file.path).foldl
    (fun table file => table.add file.path file.lines) hits

/-- The measurement that counts amount to. -/
def measure (settings : Settings) (boundaries : List Boundary) (w : World) (hits : HitTable) :
    Measurement :=
  Measurement.ofFiles settings.source
    (hits.files.map fun file => FileAccount.ofHits file (boundaryOf w boundaries file.path))

/-- The session once its collector has finished with counts. -/
def halt (session : Session κ) (state : κ) (files : List FileHits) : Session κ :=
  { session with
    collector := state
    stage := .stopped
    hits := gather (Scope.ofTexts session.settings.source) session.hits files }

/-- Stops the session. -/
def stop (collector : Collector κ) (session : Session κ) (w : World) :
    Except CoverageError Unit × Session κ × World :=
  match session.expect .started with
  | .error e => (.error e, session, w)
  | .ok () =>
    match collector.finish session.objects session.collector w with
    | (.error e, state, next) => (.error e, { session with collector := state }, next)
    | (.ok files, state, next) =>
      let halted := session.halt state files
      match halted.settings.boundaries with
      | .error e => (.error e, halted, next)
      | .ok boundaries =>
        let measured := measure halted.settings boundaries next halted.hits
        (.ok (), { halted with measured := some measured }, next)

/-! ## Results -/

/-- What was measured. -/
def measurement (session : Session κ) : Except CoverageError Measurement := do
  session.expect .stopped
  match session.measured with
  | some measured => return measured
  | none => throw (.invalidState Stage.stopped.name Stage.configured.name)

/-- Writes the measurement to the data file, and gives back its path. -/
def save (session : Session κ) (w : World) : Except CoverageError (Pathname × World) := do
  let measured ← session.measurement
  let next ← measured.save w session.settings.dataFile
  return (session.settings.dataFile, next)

/-- The directory that files are named from in reports. -/
def displayRoot (w : World) : Pathname :=
  match w.currentDirectory with
  | .ok directory => directory
  | .error _ => ⟨""⟩

/-- What a report calls the stream that it goes to. -/
def reportStream : Pathname := ⟨"<stdout>"⟩

/-- Writes the short report to a stream, and gives back the percentage of everything measured. -/
def report (session : Session κ) (w : World) (stream : Stream σ) (s : σ) :
    Except CoverageError Binary64 × σ :=
  match session.measurement with
  | .error e => (.error e, s)
  | .ok measured =>
    match stream.send ((Table.lines (displayRoot w) measured).map Piece.line) s with
    | (.ok (), next) => (.ok measured.totals.percent, next)
    | (.error fault, next) => (.error (.io reportStream fault), next)

/-- Writes the long report into a directory, and gives back the percentage of everything
    measured. -/
def reportPages (session : Session κ) (directory : Pathname) (w : World) :
    Except CoverageError Binary64 × World :=
  match session.measurement with
  | .error e => (.error e, w)
  | .ok measured => Pages.write measured (displayRoot w) directory w

end Session
end SuiteCoverage
