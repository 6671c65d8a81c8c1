import BuildPipeline.Proofs.Optimizing
import BuildPipeline.Proofs.Settings.Layers

set_option autoImplicit false

namespace BuildPipeline.Plugin

/-- A call by the host, with all that it finds outside the plugin at that time. -/
inductive Call where
  | load (compile : Compile) (fs : FileSystem) (path : Path)
  | optimize (parse : Page.Parser) (fs : FileSystem) (program : Bundler.Program) (scratch dir : Path)

structure Called where
  call : Call
  before : Plugin
  after : Plugin
  asked : Option Bundler.Request := none
  report : Option BuildTree.Report := none

def answer (p : Plugin) (call : Call) : Called :=
  match call with
  | .load compile fs path => { call, before := p, after := (p.load compile fs path).plugin }
  | .optimize parse fs program scratch dir =>
    let o := p.optimize parse fs program scratch dir
    { call, before := p, after := o.plugin, asked := o.asked, report := o.report.toOption.join }

def history (p : Plugin) : List Call → List Called
  | [] => []
  | call :: rest => p.answer call :: (p.answer call).after.history rest

theorem member_bundlerSettings_minify (host : Settings.Host) (options : Settings.Options) :
    (Settings.bundlerSettings host options).member "minify" =
      .bool (options.minify.getD host.buildMinify) := by
  have record (a b c : Value) :
      Mapping.IsRecord [(.str "splitting", a), (.str "target", b), (.str "minify", c)] :=
    .of_keys (by simp [Mapping.keys]) (by simp [Mapping.keys])
  have own (a : Value) : Mapping.IsRecord [(.str "minify", a)] :=
    .of_keys (by simp [Mapping.keys]) (by simp [Mapping.keys])
  rw [Settings.bundlerSettings, Settings.resolveLayers, Mapping.member]
  simp only [List.foldl_cons, List.foldl_nil]
  -- The options are the last layer, and the host's the one below.
  rw [Settings.get?_layOver_str _ (record _ _ _)]
  cases options.minify with
  | none => simp [Mapping.get?_cons_str, Settings.boolValue, Value.isNull, Mapping.member,
      Settings.get?_layOver_str _ (own _)]
  | some b => simp [Mapping.get?_cons_str, Settings.boolValue, Value.isNull]

theorem minify_order (p : Plugin) (entryPoints : List Path) (root : Path) :
    (p.order entryPoints root).minify = p.options.minify.getD p.host.buildMinify := by
  simp only [order, settingOf, member_bundlerSettings_minify, Value.truthy]

theorem minify_of_asked {e : Bundler.Esbuild} {program : Bundler.Program} {scratch : Path}
    {w : World} {o : Bundler.Order} {request : Bundler.Request}
    (asked : (Bundler.bundle e program scratch w o).asked = some request) :
    request.minify = o.minify := by
  simp only [Bundler.bundle] at asked
  split at asked
  next => cases asked
  next =>
    cases asked
    rfl

/-- What a step of the plugin does to its settings, and what it asks of the bundler. Only a report
changes anything. -/
structure Step (p after : Plugin) (asked : Option Bundler.Request)
    (report : Option BuildTree.Report) : Prop where
  options : after.options = p.options
  host : after.host = if report.isSome then p.minified.host else p.host
  asks : ∀ request ∈ asked, request.minify = p.options.minify.getD p.host.buildMinify

theorem step_bundle (p : Plugin) (fs : FileSystem) (program : Bundler.Program) (scratch : Path)
    (entryPoints : List Path) (dir : Path) :
    Step p (p.bundle fs program scratch entryPoints dir).plugin
      (p.bundle fs program scratch entryPoints dir).asked
      (p.bundle fs program scratch entryPoints dir).report.toOption.join := by
  have asks : ∀ request ∈ (Bundler.bundle p.esbuild program scratch ⟨fs, p.console⟩
      (p.order entryPoints dir)).asked, request.minify = p.options.minify.getD p.host.buildMinify :=
    fun request asked => (minify_of_asked asked).trans (minify_order p entryPoints dir)
  rw [bundle]
  split
  next => exact ⟨rfl, rfl, asks⟩
  next => exact ⟨rfl, rfl, asks⟩
  next => exact ⟨rfl, rfl, asks⟩

theorem step_answer (p : Plugin) (call : Call) :
    Step p (p.answer call).after (p.answer call).asked (p.answer call).report := by
  cases call with
  | load compile fs path => exact ⟨rfl, rfl, by simp [answer]⟩
  | optimize parse fs program scratch dir =>
    rw [answer, optimize]
    split
    next => exact ⟨rfl, rfl, by simp⟩
    simp only
    split
    next => exact ⟨rfl, rfl, by simp⟩
    next => exact ⟨rfl, rfl, by simp⟩
    next found console _ _ =>
      -- Looking for entry points has only told the console something.
      obtain ⟨options, host, asks⟩ := step_bundle { p with console } fs program scratch found dir
      exact ⟨options, host, asks⟩

theorem answer_of_history {p : Plugin} {calls : List Call} {n : Nat} {called : Called}
    (made : (p.history calls)[n]? = some called) :
    calls[n]? = some called.call ∧ called = called.before.answer called.call := by
  induction calls generalizing p n with
  | nil => cases made
  | cons call rest ih =>
    cases n with
    | zero =>
      cases made
      cases call <;> exact ⟨rfl, rfl⟩
    | succ n => exact ih made

theorem before_of_history {p : Plugin} {calls : List Call} {n : Nat} {called : Called}
    (made : (p.history calls)[n]? = some called) :
    called.before.options = p.options ∧ called.before.host =
      { p.host with
        buildMinify := p.host.buildMinify && ((p.history calls).take n).all (·.report.isNone) } := by
  induction calls generalizing p n with
  | nil => cases made
  | cons call rest ih =>
    cases n with
    | zero =>
      cases made
      cases call <;> simp [answer]
    | succ n =>
      -- The rest is a run of the plugin that the first call has left.
      obtain ⟨options, host⟩ := ih made
      have step := step_answer p call
      refine ⟨options.trans step.options, ?_⟩
      rw [host, step.host, history, List.take_succ_cons, List.all_cons]
      cases (p.answer call).report <;> simp [minified]

/-- Of every bundler call in a run, the options decide whether it is told to minify; where they say
nothing, it is told so as long as the host asks for it and no optimization has reported. A load
changes no settings, and an optimization only clears that wish of the host when it reports. -/
theorem minify_over_calls {p : Plugin} {calls : List Call} {n : Nat} {called : Called}
    (made : (p.history calls)[n]? = some called) :
    calls[n]? = some called.call ∧ (∀ request, called.asked = some request →
      (∀ b, p.options.minify = some b → request.minify = b) ∧
      (p.options.minify = none → (request.minify = true ↔ p.host.buildMinify = true ∧
        ∀ earlier ∈ (p.history calls).take n, earlier.report = none))) ∧
    called.after.options = called.before.options ∧
    (called.report = none → called.after.host = called.before.host) ∧
    (∀ report, called.report = some report →
      called.after.host = { called.before.host with buildMinify := false }) ∧
    (∀ compile fs path, called.call = .load compile fs path → called.after.host = called.before.host) ∧
    (called.before.host.buildMinify = false → called.after.host.buildMinify = false) := by
  obtain ⟨here, answered⟩ := answer_of_history made
  obtain ⟨options, host⟩ := before_of_history made
  have step := step_answer called.before called.call
  rw [← answered] at step
  refine ⟨here, ?_, step.options, ?_, ?_, ?_, ?_⟩
  · intro request asked
    have told := step.asks request asked
    rw [options, host] at told
    refine ⟨fun b set => by rw [told, set]; rfl, fun unset => ?_⟩
    rw [told, unset]
    simp
  · intro quiet
    rw [step.host, quiet]
    rfl
  · intro report there
    rw [step.host, there]
    rfl
  · intro compile fs path load
    rw [answered, load]
    rfl
  · intro off
    rw [step.host]
    split
    · rfl
    · exact off

def wishing (minify : Bool) : Plugin :=
  { bundling with host := { bundling.host with buildMinify := minify } }

-- The manifest that it leaves names nothing.
def reporting : Bundler.Program := fun _ fs =>
  (.ok { code := 0 }, fs.set ["t", "meta.json"] (.file (Text.Utf8.encode ['\x7b', '\x7d'])))

theorem optimize_onePage (minify : Bool) (program : Bundler.Program) :
    (wishing minify).optimize Markup.parse onePage program ⟨.root, ["t"]⟩ ⟨.relative, ["build"]⟩ =
      (wishing minify).bundle onePage program ⟨.root, ["t"]⟩ [⟨.root, ["w", "build", "main.js"]⟩]
        ⟨.relative, ["build"]⟩ := by
  have resolved := resolve_onePage
  rw [optimize]
  simp only [bundling, wishing] at resolved ⊢
  rw [resolved]
  rfl

def building (program : Bundler.Program) : Call :=
  .optimize Markup.parse onePage program ⟨.root, ["t"]⟩ ⟨.relative, ["build"]⟩

def loading : Call :=
  .load (bundling.compiler.compile fun _ => .ok { code := 1 }) onePage ⟨.relative, ["main.imba"]⟩

theorem answer_failing (minify : Bool) :
    ((wishing minify).answer (building failing)).after = wishing minify ∧
      ((wishing minify).answer (building failing)).report = none ∧
      ((wishing minify).answer (building failing)).asked.isSome = true := by
  simp only [building, answer, optimize_onePage]
  cases minify <;> decide +kernel

theorem answer_reporting :
    ((wishing true).answer (building reporting)).after = wishing false ∧
      ((wishing true).answer (building reporting)).report.isSome = true ∧
      ((wishing true).answer (building reporting)).asked.isSome = true := by
  simp only [building, answer, optimize_onePage]
  decide +kernel

theorem minify_until_report : ∃ loaded failed reported again request request',
    bundling.history [loading, building failing, building reporting, building failing] =
      [loaded, failed, reported, again] ∧
    failed.report = none ∧ reported.asked = some request ∧ request.minify = true ∧
    reported.report.isSome = true ∧ again.asked = some request' ∧ request'.minify = false := by
  have load : ((wishing true).answer loading).after = wishing true := by decide +kernel
  obtain ⟨failed, quiet, -⟩ := answer_failing true
  obtain ⟨cleared, told, asked⟩ := answer_reporting
  obtain ⟨request, asked⟩ := Option.isSome_iff_exists.1 asked
  obtain ⟨request', asked'⟩ := Option.isSome_iff_exists.1 (answer_failing false).2.2
  have run : (wishing true).history [loading, building failing, building reporting,
      building failing] = [(wishing true).answer loading, (wishing true).answer (building failing),
        (wishing true).answer (building reporting), (wishing false).answer (building failing)] := by
    simp only [history, load, failed, cleared]
  have third := ((minify_over_calls (n := 2) (congrArg (·[2]?) run)).2.1 request asked).2 rfl
  have fourth := ((minify_over_calls (n := 3) (congrArg (·[3]?) run)).2.1 request' asked').2 rfl
  rw [run] at third fourth
  refine ⟨_, _, _, _, request, request', run, quiet, asked, third.2 ⟨rfl, ?_⟩, told, asked', ?_⟩
  · simpa using ⟨rfl, quiet⟩
  · rw [Bool.eq_false_iff]
    intro minify
    rw [(fourth.1 minify).2 _ (by simp)] at told
    cases told

end BuildPipeline.Plugin
