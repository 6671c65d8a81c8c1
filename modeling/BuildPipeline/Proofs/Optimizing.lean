import BuildPipeline.Markup.Script
import BuildPipeline.Plugin
import BuildPipeline.Proofs.BuildTree.Faults

set_option autoImplicit false

namespace BuildPipeline

open FileSystem Sequencing

structure Unchanged (before after : FileSystem) : Prop where
  cwd : after.cwd = before.cwd
  entries : ∀ l, after.get? l = before.get? l

theorem Unchanged.refl (fs : FileSystem) : Unchanged fs fs :=
  ⟨rfl, fun _ => rfl⟩

namespace Bundler

/-- A program that changes nothing but what is strictly below a place. -/
def WritesBelow (program : Program) (place : Location) : Prop :=
  ∀ job fs, (program job fs).2.cwd = fs.cwd ∧
    ∀ l, ¬ (place <+: l ∧ l ≠ place) → (program job fs).2.get? l = fs.get? l

/-- The files that the bundler leaves, and the manifest that they hold. -/
structure Leaves (e : Esbuild) (program : Program) (scratch : Path) (before : FileSystem)
    (request : Request) (files : FileSystem) (m : Manifest) : Prop where
  ran : ∃ made, before.makeDirectory scratch = .ok made ∧
    files = (program (e.job request) made).2
  manifest : Manifest.load files (metafileIn scratch) (e.cwd.getD ⟨.root, files.cwd⟩) = .ok m

theorem files_tellErrors (w : World) (ds : List Diagnostic) : (tellErrors w ds).files = w.files := by
  rw [tellErrors]
  induction ds generalizing w with
  | nil => rfl
  | cons d rest ih => exact ih _

theorem files_tellWarnings (w : World) (ds : List Diagnostic) :
    (tellWarnings w ds).files = w.files := by
  rw [tellWarnings]
  induction ds generalizing w with
  | nil => rfl
  | cons d rest ih => exact ih _

theorem finish_cases (e : Esbuild) (o : Order) (scratch : Path) (w : World)
    (answer : Except Fault (List Diagnostic)) :
    (∃ report, (finish e o scratch w answer).2 = .ok (some report)) ∨
      (finish e o scratch w answer).1.files = w.files ∨
      ∃ m cause,
        Manifest.load w.files (metafileIn scratch) (e.cwd.getD ⟨.root, w.files.cwd⟩) = .ok m ∧
        ¬ BuildTree.AllNameable w.files m o.root o.transient ∧
        (finish e o scratch w answer).2 = .error (.reconcile (.access cause)) := by
  unfold finish
  split
  next ds => exact .inr (.inl ((files_tellWarnings _ _).trans (files_tellErrors _ _)))
  next cause => exact .inr (.inl (files_tellErrors _ _))
  next fault _ _ => exact .inr (.inl rfl)
  next warnings =>
    simp only [files_tellWarnings]
    split
    next fault _ => exact .inr (.inl (files_tellWarnings _ _))
    next m loaded =>
      have files := files_tellWarnings w warnings
      generalize tellWarnings w warnings = told at files ⊢
      rcases BuildTree.reconcile_cases told m o.root o.transient with
        ⟨report, done⟩ | same | ⟨cause, fails⟩
      · exact .inl ⟨report, by rw [done]; rfl⟩
      · exact .inr (.inl (by rw [same, files]))
      · refine .inr (.inr ⟨m, cause, loaded, fun all => ?_, by rw [fails]; rfl⟩)
        rw [← files] at all
        exact all.reconcile_ne_access cause fails

theorem unchanged_removeTree {program : Program} {fs made : FileSystem} {scratch : Path}
    (closed : fs.IsClosed) (done : fs.makeDirectory scratch = .ok made)
    (writes : ∀ place, fs.spot false scratch = .ok (.free place) → WritesBelow program place)
    (job : Command.Job) : Unchanged fs ((program job made).2.removeTree scratch) := by
  obtain ⟨place, free, rfl⟩ := spot_of_makeDirectory done
  obtain ⟨cwd, kept⟩ := writes place free job (fs.set place .directory)
  have nonempty : place ≠ [] := by
    rintro rfl
    exact absurd (spot_eq_free free).1 (by simp)
  have there : (program job (fs.set place .directory)).2.get? place = some .directory := by
    rw [kept place (by simp), get?_set_self fs nonempty]
  have others : ∀ l, ¬ place <+: l →
      (program job (fs.set place .directory)).2.get? l = fs.get? l := by
    intro l elsewhere
    rw [kept l fun below => elsewhere below.1, get?_set_ne fs]
    rintro rfl
    exact elsewhere List.prefix_rfl
  obtain ⟨cwd', same⟩ := get?_removeTree closed free cwd there others
  exact ⟨cwd', same⟩

theorem bundle_cases (e : Esbuild) (program : Program) (scratch : Path) (w : World) (o : Order)
    (closed : w.files.IsClosed)
    (writes : ∀ place, w.files.spot false scratch = .ok (.free place) → WritesBelow program place) :
    (∃ report, (bundle e program scratch w o).report = .ok (some report)) ∨
      Unchanged w.files (bundle e program scratch w o).world.files ∨
      ∃ request files m cause, (bundle e program scratch w o).asked = some request ∧
        Leaves e program scratch w.files request files m ∧
        ¬ BuildTree.AllNameable files m (Path.absolute ⟨.root, w.files.cwd⟩ o.root) o.transient ∧
        (bundle e program scratch w o).report = .error (.reconcile (.access cause)) := by
  rw [bundle]
  simp only
  split
  next fault _ => exact .inr (.inl (.refl _))
  next made done =>
    have restored := unchanged_removeTree closed done writes
    rcases finish_cases e _ scratch _ _ with ⟨report, told⟩ | same | ⟨m, cause, loaded, unnamed, fails⟩
    · exact .inl ⟨report, told⟩
    · exact .inr (.inl (by rw [same]; exact restored _))
    · exact .inr (.inr ⟨_, _, m, cause, rfl, ⟨⟨made, done, rfl⟩, loaded⟩, unnamed, fails⟩)

theorem spot_bundle (e : Esbuild) (program : Program) {scratch : Path} {w : World} (o : Order)
    {place : Location} (free : w.files.spot false scratch = .ok (.free place)) (q : Location) :
    (bundle e program scratch w o).world.files.spot false scratch ≠ .ok (.taken q .directory) := by
  have made : w.files.makeDirectory scratch = .ok (w.files.set place .directory) := by
    rw [makeDirectory, free]
    rfl
  rw [bundle, made]
  exact spot_removeTree _ (spot_eq_free free).2 q

end Bundler

namespace Plugin

open Bundler

/-- A run that leaves the host and all files as they were, or that a path which no system names
brought to its end. -/
def EndsHarmlessly (p : Plugin) (fs : FileSystem) (program : Program) (scratch dir : Path)
    (o : Optimized) : Prop :=
  o.plugin.host = p.host ∧
    (Unchanged fs o.files ∨ ∃ request files m cause, o.asked = some request ∧
      Leaves p.esbuild program scratch fs request files m ∧
      ¬ BuildTree.AllNameable files m (Path.absolute ⟨.root, fs.cwd⟩ dir) p.transient ∧
      o.report = .error (.bundling (.reconcile (.access cause))))

theorem bundle_without_report (p : Plugin) {fs : FileSystem} {program : Program} {scratch : Path}
    (entryPoints : List Path) (dir : Path) (closed : fs.IsClosed)
    (writes : ∀ place, fs.spot false scratch = .ok (.free place) → WritesBelow program place)
    (none : ∀ report, (p.bundle fs program scratch entryPoints dir).report ≠ .ok (some report)) :
    EndsHarmlessly p fs program scratch dir (p.bundle fs program scratch entryPoints dir) := by
  have cases' := bundle_cases p.esbuild program scratch ⟨fs, p.console⟩ (p.order entryPoints dir)
    closed writes
  rw [Plugin.bundle] at none ⊢
  generalize Bundler.bundle p.esbuild program scratch ⟨fs, p.console⟩ (p.order entryPoints dir) = b
    at cases' none ⊢
  split at none
  next fault failed =>
    rw [failed] at cases'
    rcases cases' with ⟨report, never⟩ | same | ⟨request, files, m, cause, asked, leaves, unnamed, fails⟩
    · cases never
    · exact ⟨rfl, .inl same⟩
    · cases fails
      exact ⟨rfl, .inr ⟨request, files, m, cause, asked, leaves, unnamed, rfl⟩⟩
  next quiet =>
    rw [quiet] at cases'
    rcases cases' with ⟨report, never⟩ | same | ⟨request, files, m, cause, -, -, -, never⟩
    · cases never
    · exact ⟨rfl, .inl same⟩
    · cases never
  next report told => exact absurd rfl (none report)

theorem spot_plugin_bundle (p : Plugin) {fs : FileSystem} (program : Program) {scratch : Path}
    (entryPoints : List Path) (dir : Path) {place : Location}
    (free : fs.spot false scratch = .ok (.free place)) (q : Location) :
    (p.bundle fs program scratch entryPoints dir).files.spot false scratch ≠
      .ok (.taken q .directory) := by
  have gone := spot_bundle p.esbuild program (w := ⟨fs, p.console⟩) (p.order entryPoints dir) free q
  rw [Plugin.bundle]
  split <;> exact gone

def onePage : FileSystem :=
  ⟨["w"], [(["w"], .directory), (["w", "build"], .directory),
    (["w", "build", "main.js"], .file [])]⟩

def failing : Program := fun _ fs =>
  (.ok { code := 1 }, fs.set ["t", "main.js"] (.file []))

def bundling : Plugin where
  host := { bundle := true, buildMinify := true }
  options := { entrypoints := ["main.imba"] }
  console := .named "none"
  workingDir := none

theorem walk_onePage : BuildTree.walk onePage .standard ⟨.relative, ["build"]⟩ =
    .ok [⟨⟨.root, ["w", "build", "main.js"]⟩, "main.js", "main", .script⟩] := by
  have names : onePage.names ["w", "build"] = ["main.js"] := by
    have found : (onePage.entries.filterMap fun e => nameIn? ["w", "build"] e.1) = ["main.js"] := by
      decide +kernel
    rw [FileSystem.names, found, List.mergeSort_singleton]
  have scan : BuildTree.scan onePage .standard
      (Path.absolute ⟨.root, onePage.cwd⟩ ⟨.relative, ["build"]⟩) =
        .ok [.file ⟨⟨.root, ["w", "build", "main.js"]⟩, "main.js", "main", .script⟩] := by
    have top : Path.absolute ⟨.root, onePage.cwd⟩ ⟨.relative, ["build"]⟩ =
        ⟨.root, ["w", "build"]⟩ := rfl
    have found : onePage.findDirectory ⟨.root, ["w", "build"]⟩ = .ok ["w", "build"] := by
      decide +kernel
    rw [top, BuildTree.scan, found]
    simp only [Sequencing.ok_bind, names]
    decide +kernel
  rw [BuildTree.walk, BuildTree.drain, scan]
  rfl

theorem resolve_onePage : Entrypoints.resolve Markup.parse onePage bundling.console
    (.list (bundling.options.entrypoints.map .str)) ⟨.relative, ["build"]⟩
      bundling.options.smartscan =
    (.ok [⟨.root, ["w", "build", "main.js"]⟩], bundling.console) := by
  rw [Entrypoints.resolve]
  simp only [walk_onePage]
  decide +kernel

theorem report_onePage :
    (bundling.optimize Markup.parse onePage failing ⟨.root, ["t"]⟩ ⟨.relative, ["build"]⟩).report.toOption =
      some none := by
  rw [optimize]
  simp only [resolve_onePage]
  decide +kernel

end Plugin

end BuildPipeline
