import AmqpHandshake.Cli.Run
import AmqpHandshake.Proofs.Layers

/-! A plan is made of a settings file and of what the command line gives beside it, field by field.
The fields of the merge are told apart here, and every way in which the command can fail. -/
namespace AmqpHandshake

/-- A value over another one: it is used if it is given, and else the other one is kept. -/
inductive Overridden : Option α → α → α → Prop
  | given (value below : α) : Overridden (some value) below value
  | kept (below : α) : Overridden none below below

theorem overridden_iff {above : Option α} {below value : α} :
    Overridden above below value ↔ above.getD below = value := by
  constructor
  · rintro (_ | _)
    · rfl
    · rfl
  · rintro rfl
    cases above with
    | some value => exact .given value below
    | none => exact .kept below

/-- For a field that may be absent, an override makes it present. -/
theorem overridden_optional_iff {above below value : Option α} :
    Overridden (above.map some) below value ↔ (above <|> below) = value := by
  rw [overridden_iff]
  cases above <;> rfl

namespace Overrides

variable {overrides : Overrides} {base merged : Settings} {proxy next : Option ProxyOptions}

/-- What the overrides make of a proxy. One that is there keeps its credentials, whatever else is
replaced; a new one has none. -/
inductive MergesProxy (overrides : Overrides) : Option ProxyOptions → Option ProxyOptions → Prop
  | replaced {host : String} {port : UInt16} (proxy : ProxyOptions)
      (named : Overridden overrides.proxyHost proxy.host host)
      (opened : Overridden overrides.proxyPort proxy.port port) :
      MergesProxy overrides (some proxy) (some ⟨host, port, proxy.username, proxy.password⟩)
  | made {host : String} {port : UInt16} (named : overrides.proxyHost = some host)
      (opened : overrides.proxyPort = some port) :
      MergesProxy overrides none (some ⟨host, port, none, none⟩)
  | absent (unnamed : overrides.proxyHost = none) (closed : overrides.proxyPort = none) :
      MergesProxy overrides none none

/-- Settings with the overrides over them, field by field. -/
structure Merges (overrides : Overrides) (base merged : Settings) : Prop where
  hostName : Overridden overrides.hostName base.hostName merged.hostName
  protocol : Overridden overrides.protocol base.protocol merged.protocol
  userName : Overridden (overrides.userName.map some) base.userName merged.userName
  sasToken : Overridden (overrides.sasToken.map some) base.sasToken merged.sasToken
  caBundle : Overridden (overrides.caBundle.map some) base.caBundle merged.caBundle
  proxy : overrides.MergesProxy base.proxy merged.proxy
  serviceLink : merged.serviceLink = base.serviceLink
  timeoutSecs : merged.timeoutSecs = base.timeoutSecs

/-- One half of a new proxy is given, and the other one is missing. -/
inductive Lacks (overrides : Overrides) : ProxyGap → Prop
  | host {port : UInt16} (unnamed : overrides.proxyHost = none)
      (opened : overrides.proxyPort = some port) : Lacks overrides .host
  | port {host : String} (named : overrides.proxyHost = some host)
      (closed : overrides.proxyPort = none) : Lacks overrides .port

theorem mergeProxy_eq_ok_iff :
    overrides.mergeProxy proxy = .ok next ↔ overrides.MergesProxy proxy next := by
  constructor
  · intro merges
    cases proxy with
    | some proxy =>
      cases merges
      exact .replaced proxy (overridden_iff.mpr rfl) (overridden_iff.mpr rfl)
    | none =>
      simp only [mergeProxy] at merges
      split at merges
      all_goals cases merges
      · rename_i unnamed closed
        exact .absent unnamed closed
      · rename_i named opened
        exact .made named opened
  · rintro (⟨proxy, named, opened⟩ | ⟨named, opened⟩ | ⟨unnamed, closed⟩)
    · rw [← overridden_iff.mp named, ← overridden_iff.mp opened]
      rfl
    · simp only [mergeProxy, named, opened, ProxyOptions.plain]
    · simp only [mergeProxy, unnamed, closed]

theorem mergeProxy_eq_error_iff {gap : ProxyGap} :
    overrides.mergeProxy proxy = .error gap ↔ proxy = none ∧ overrides.Lacks gap := by
  constructor
  · intro fails
    cases proxy with
    | some proxy => cases fails
    | none =>
      simp only [mergeProxy] at fails
      split at fails
      all_goals cases fails
      · rename_i named closed
        exact ⟨rfl, .port named closed⟩
      · rename_i unnamed opened
        exact ⟨rfl, .host unnamed opened⟩
  · rintro ⟨rfl, ⟨unnamed, opened⟩ | ⟨named, closed⟩⟩
    · simp only [mergeProxy, unnamed, opened]
    · simp only [mergeProxy, named, closed]

/-- Each field but the proxy is merged by itself. -/
theorem merges_iff : overrides.Merges base merged ↔
    overrides.MergesProxy base.proxy merged.proxy ∧
      merged = { base with
        hostName := overrides.hostName.getD base.hostName
        protocol := overrides.protocol.getD base.protocol
        userName := overrides.userName <|> base.userName
        sasToken := overrides.sasToken <|> base.sasToken
        proxy := merged.proxy
        caBundle := overrides.caBundle <|> base.caBundle } := by
  constructor
  · intro merges
    obtain ⟨hostName, protocol, userName, sasToken, caBundle, proxy, serviceLink, timeoutSecs⟩ :=
      merges
    refine ⟨proxy, ?_⟩
    rw [overridden_iff.mp hostName, overridden_iff.mp protocol,
      overridden_optional_iff.mp userName, overridden_optional_iff.mp sasToken,
      overridden_optional_iff.mp caBundle, ← serviceLink, ← timeoutSecs]
  · rintro ⟨proxy, same⟩
    rw [same]
    exact {
      hostName := overridden_iff.mpr rfl
      protocol := overridden_iff.mpr rfl
      userName := overridden_optional_iff.mpr rfl
      sasToken := overridden_optional_iff.mpr rfl
      caBundle := overridden_optional_iff.mpr rfl
      proxy
      serviceLink := rfl
      timeoutSecs := rfl }

/-- Settings are planned as they are if any half of the credentials is known, and else with
placeholders for both. -/
inductive Completes : Settings → Settings → Prop
  | known {settings : Settings}
      (credentials : settings.userName ≠ none ∨ settings.sasToken ≠ none) :
      Completes settings settings
  | placeholders {settings : Settings} (noUser : settings.userName = none)
      (noToken : settings.sasToken = none) :
      Completes settings { settings with
        userName := some "planner"
        sasToken := some "SharedAccessSignature sr=placeholder" }

theorem completes_iff {completed : Settings} :
    Completes merged completed ↔ withPlaceholders merged = completed := by
  constructor
  · rintro (⟨known⟩ | ⟨noUser, noToken⟩)
    · refine if_neg fun unknown => ?_
      obtain ⟨noUser, noToken⟩ := Bool.and_eq_true_iff.mp unknown
      rcases known with user | token
      · exact user (Option.isNone_iff_eq_none.mp noUser)
      · exact token (Option.isNone_iff_eq_none.mp noToken)
    · exact if_pos (by rw [noUser, noToken]; rfl)
  · rintro rfl
    unfold withPlaceholders
    split
    · rename_i unknown
      obtain ⟨noUser, noToken⟩ := Bool.and_eq_true_iff.mp unknown
      exact .placeholders (Option.isNone_iff_eq_none.mp noUser)
        (Option.isNone_iff_eq_none.mp noToken)
    · rename_i known
      apply Completes.known
      cases user : merged.userName with
      | some user => exact .inl nofun
      | none =>
        refine .inr fun noToken => known ?_
        rw [user, noToken]
        rfl

theorem apply_eq_ok_iff {settings : Settings} : overrides.apply base = .ok settings ↔
    ∃ merged, overrides.Merges base merged ∧ Completes merged settings := by
  unfold apply
  rw [bind_eq_ok_iff]
  constructor
  · rintro ⟨proxy, merges, done⟩
    exact ⟨_, merges_iff.mpr ⟨mergeProxy_eq_ok_iff.mp merges, rfl⟩,
      completes_iff.mpr (Except.ok.inj done)⟩
  · rintro ⟨merged, merges, completes⟩
    -- The merge is fixed by what it says of each field, so it is the one that is computed.
    obtain ⟨proxy, same⟩ := merges_iff.mp merges
    refine ⟨merged.proxy, mergeProxy_eq_ok_iff.mpr proxy, ?_⟩
    rw [← completes_iff.mp completes]
    exact congrArg (fun merged => Except.ok (withPlaceholders merged)) same.symm

theorem apply_eq_error_iff {gap : ProxyGap} :
    overrides.apply base = .error gap ↔ base.proxy = none ∧ overrides.Lacks gap := by
  unfold apply
  rw [bind_eq_error_iff, mergeProxy_eq_error_iff]
  exact or_iff_left nofun

end Overrides

/-- The request that asks for an upgrade, which only a web socket needs. -/
inductive WebSocketLayer.Upgrades (key : Nonce) :
    Option WebSocketLayer → Option UpgradeRequest → Prop
  | unframed : Upgrades key none none
  | framed {layer : WebSocketLayer} {request : UpgradeRequest}
      (formed : layer.upgradeRequest key = .ok request) : Upgrades key (some layer) (some request)

namespace PlanReport

variable {read : FileReader} {key : Nonce} {path : Option String} {overrides : Overrides}
variable {settings : Settings} {config : ConnectionConfig} {report : PlanReport}
variable {fault : PlanFault}

/-- What the overrides are put over: the settings of the file, or the defaults without a file. -/
inductive Base (read : FileReader) : Option String → Settings → Prop
  | defaults : Base read none {}
  | file {path : String} {settings : Settings} (loaded : Settings.load read path = .ok settings) :
      Base read (some path) settings

/-- The settings of a plan: those of the file under the overrides, with credentials. -/
inductive Planned (read : FileReader) (path : Option String) (overrides : Overrides)
    (settings : Settings) : Prop
  | intro {base merged : Settings} (based : Base read path base)
      (merges : overrides.Merges base merged) (completes : Overrides.Completes merged settings)

/-- What the plan of a configuration shows. A TLS context that cannot be built is shown as well. -/
structure Shows (report : PlanReport) (read : FileReader) (key : Nonce)
    (config : ConnectionConfig) (timeoutSecs : UInt64) : Prop where
  hostName : report.hostName = config.hostName
  protocol : report.protocol = config.protocol
  endpoint : report.endpoint = config.endpoint
  layers : config.layers = .ok report.layers
  upgrade : ∃ request, WebSocketLayer.Upgrades key report.layers.webSocket request ∧
    report.upgrade = request.map UpgradeRequest.lines
  tlsFault : ∀ fault, report.tlsFault = some fault ↔ config.tls.resolve read = .error fault
  timeoutSecs : report.timeoutSecs = timeoutSecs

/-- The ways in which settings are not planned. -/
inductive Unplanned (key : Nonce) (settings : Settings) : PlanFault → Prop
  | invalidSettings {error : HandshakeError}
      (invalid : settings.toConnectionConfig = .error error) :
      Unplanned key settings (.invalidSettings error)
  | invalidLayers {config : ConnectionConfig} {cause : FailureCause}
      (valid : settings.toConnectionConfig = .ok config)
      (unlayered : config.layers = .error cause) : Unplanned key settings (.invalidLayers cause)
  | noUpgrade {config : ConnectionConfig} {plan : LayerPlan} {layer : WebSocketLayer}
      {cause : FailureCause} (valid : settings.toConnectionConfig = .ok config)
      (layered : config.layers = .ok plan) (framed : plan.webSocket = some layer)
      (unformed : layer.upgradeRequest key = .error cause) :
      Unplanned key settings (.noUpgrade cause)

/-- The ways in which the command fails. TLS is none of them. -/
inductive Refused (read : FileReader) (key : Nonce) (path : Option String)
    (overrides : Overrides) : PlanFault → Prop
  | unloaded {file : String} {error : HandshakeError} (given : path = some file)
      (unreadable : Settings.load read file = .error error) :
      Refused read key path overrides (.unloaded error)
  | proxyGap {base : Settings} {gap : ProxyGap} (based : Base read path base)
      (direct : base.proxy = none) (lacks : overrides.Lacks gap) :
      Refused read key path overrides (.proxyGap gap)
  | unplanned {settings : Settings} {fault : PlanFault}
      (planned : Planned read path overrides settings)
      (unplanned : Unplanned key settings fault) : Refused read key path overrides fault

/-- The settings that the overrides are put over. -/
def loadBase (read : FileReader) : Option String → Except PlanFault Settings
  | some path => (Settings.load read path).mapError .unloaded
  | none => .ok {}

/-- With the choice of a file set apart, loading and merging are two steps in a row. -/
theorem settings_eq : PlanReport.settings read path overrides =
    loadBase read path >>= fun base => (overrides.apply base).mapError .proxyGap := by
  cases path <;> rfl

theorem loadBase_eq_ok_iff {base : Settings} :
    loadBase read path = .ok base ↔ Base read path base := by
  constructor
  · intro based
    cases path with
    | none =>
      cases based
      exact .defaults
    | some file => exact .file (mapError_eq_ok_iff.mp based)
  · rintro (_ | loaded)
    · rfl
    · exact mapError_eq_ok_iff.mpr loaded

theorem loadBase_eq_error_iff : loadBase read path = .error fault ↔
    ∃ file error, path = some file ∧ Settings.load read file = .error error ∧
      .unloaded error = fault := by
  constructor
  · intro failed
    cases path with
    | none => cases failed
    | some file =>
      obtain ⟨error, unreadable, told⟩ := mapError_eq_error_iff.mp failed
      exact ⟨file, error, rfl, unreadable, told⟩
  · rintro ⟨file, error, rfl, unreadable, told⟩
    exact mapError_eq_error_iff.mpr ⟨error, unreadable, told⟩

theorem settings_eq_ok_iff :
    PlanReport.settings read path overrides = .ok settings ↔
      Planned read path overrides settings := by
  rw [settings_eq, bind_eq_ok_iff]
  constructor
  · rintro ⟨base, based, applied⟩
    obtain ⟨merged, merges, completes⟩ :=
      Overrides.apply_eq_ok_iff.mp (mapError_eq_ok_iff.mp applied)
    exact .intro (loadBase_eq_ok_iff.mp based) merges completes
  · rintro ⟨based, merges, completes⟩
    have applied := Overrides.apply_eq_ok_iff.mpr ⟨_, merges, completes⟩
    exact ⟨_, loadBase_eq_ok_iff.mpr based, mapError_eq_ok_iff.mpr applied⟩

/-- The request for an upgrade, which only a web socket needs. -/
def formUpgrade (key : Nonce) : Option WebSocketLayer → Except PlanFault (Option UpgradeRequest)
  | some layer => (some <$> layer.upgradeRequest key).mapError .noUpgrade
  | none => .ok none

/-- The error of a result, if it is one. -/
def faultOf : Except ε α → Option ε
  | .ok _ => none
  | .error fault => some fault

theorem faultOf_eq_some_iff {result : Except ε α} {fault : ε} :
    faultOf result = some fault ↔ result = .error fault := by
  cases result with
  | error plain => exact ⟨fun same => by cases same; rfl, fun same => by cases same; rfl⟩
  | ok value => exact ⟨nofun, nofun⟩

/-- A plan is formed in three steps that can fail. TLS is not among them. -/
theorem ofSettings_eq : ofSettings read key settings = (do
    let config ← settings.toConnectionConfig.mapError .invalidSettings
    let layers ← config.layers.mapError .invalidLayers
    let request ← formUpgrade key layers.webSocket
    return ⟨config.hostName, config.protocol, config.endpoint, layers,
      request.map UpgradeRequest.lines, faultOf (config.tls.resolve read),
      settings.timeoutSecs⟩) := by
  unfold ofSettings
  congr 1
  funext config
  congr 1
  funext layers
  cases layers.webSocket <;> cases config.tls.resolve read <;> rfl

theorem formUpgrade_eq_ok_iff {webSocket : Option WebSocketLayer}
    {request : Option UpgradeRequest} :
    formUpgrade key webSocket = .ok request ↔ WebSocketLayer.Upgrades key webSocket request := by
  constructor
  · intro formed
    cases webSocket with
    | none =>
      cases formed
      exact .unframed
    | some layer =>
      obtain ⟨request, answered, rfl⟩ := map_ok (mapError_eq_ok_iff.mp formed)
      exact .framed answered
  · rintro (_ | formed)
    · rfl
    · exact mapError_eq_ok_iff.mpr (congrArg (some <$> ·) formed)

theorem formUpgrade_eq_error_iff {webSocket : Option WebSocketLayer} :
    formUpgrade key webSocket = .error fault ↔ ∃ layer cause, webSocket = some layer ∧
      layer.upgradeRequest key = .error cause ∧ .noUpgrade cause = fault := by
  constructor
  · intro failed
    cases webSocket with
    | none => cases failed
    | some layer =>
      obtain ⟨cause, unformed, told⟩ := mapError_eq_error_iff.mp failed
      exact ⟨layer, cause, rfl, map_error unformed, told⟩
  · rintro ⟨layer, cause, rfl, unformed, told⟩
    exact mapError_eq_error_iff.mpr ⟨cause, congrArg (some <$> ·) unformed, told⟩

theorem ofSettings_eq_ok_iff : ofSettings read key settings = .ok report ↔
    ∃ config, settings.toConnectionConfig = .ok config ∧
      report.Shows read key config settings.timeoutSecs := by
  simp only [ofSettings_eq, bind_eq_ok_iff, mapError_eq_ok_iff, formUpgrade_eq_ok_iff]
  constructor
  · rintro ⟨config, valid, layers, layered, request, upgrades, done⟩
    cases done
    exact ⟨config, valid, {
      hostName := rfl
      protocol := rfl
      endpoint := rfl
      layers := layered
      upgrade := ⟨request, upgrades, rfl⟩
      tlsFault := fun _ => faultOf_eq_some_iff
      timeoutSecs := rfl }⟩
  · rintro ⟨config, valid, shown⟩
    obtain ⟨request, upgrades, lines⟩ := shown.upgrade
    -- Two options with the same elements are one, so the report holds the fault of the context.
    have fault : report.tlsFault = faultOf (config.tls.resolve read) :=
      Option.ext fun fault => (shown.tlsFault fault).trans faultOf_eq_some_iff.symm
    refine ⟨config, valid, report.layers, shown.layers, request, upgrades, ?_⟩
    rw [← shown.hostName, ← shown.protocol, ← shown.endpoint, ← lines, ← fault,
      ← shown.timeoutSecs]
    rfl

theorem ofSettings_eq_error_iff :
    ofSettings read key settings = .error fault ↔ Unplanned key settings fault := by
  simp only [ofSettings_eq, bind_eq_error_iff, mapError_eq_error_iff, mapError_eq_ok_iff,
    formUpgrade_eq_error_iff]
  constructor
  · rintro (⟨error, invalid, rfl⟩ | ⟨config, valid, ⟨cause, unlayered, rfl⟩ |
      ⟨plan, layered, ⟨layer, cause, framed, unformed, rfl⟩ | ⟨_, _, ⟨⟩⟩⟩⟩)
    · exact .invalidSettings invalid
    · exact .invalidLayers valid unlayered
    · exact .noUpgrade valid layered framed unformed
  · rintro (invalid | ⟨valid, unlayered⟩ | ⟨valid, layered, framed, unformed⟩)
    · exact .inl ⟨_, invalid, rfl⟩
    · exact .inr ⟨_, valid, .inl ⟨_, unlayered, rfl⟩⟩
    · exact .inr ⟨_, valid, .inr ⟨_, layered, .inl ⟨_, _, framed, unformed, rfl⟩⟩⟩

theorem settings_eq_error_iff : PlanReport.settings read path overrides = .error fault ↔
    (∃ file error, path = some file ∧ Settings.load read file = .error error ∧
      .unloaded error = fault) ∨
    ∃ base gap, Base read path base ∧ base.proxy = none ∧ overrides.Lacks gap ∧
      .proxyGap gap = fault := by
  simp only [settings_eq, bind_eq_error_iff, mapError_eq_error_iff, loadBase_eq_ok_iff,
    loadBase_eq_error_iff, Overrides.apply_eq_error_iff]
  refine or_congr_right ⟨?_, ?_⟩
  · rintro ⟨base, based, gap, ⟨direct, lacks⟩, told⟩
    exact ⟨base, gap, based, direct, lacks, told⟩
  · rintro ⟨base, gap, based, direct, lacks, told⟩
    exact ⟨base, based, gap, ⟨direct, lacks⟩, told⟩

theorem make_eq_error_iff :
    make read key path overrides = .error fault ↔ Refused read key path overrides fault := by
  unfold make
  simp only [bind_eq_error_iff, settings_eq_error_iff, settings_eq_ok_iff,
    ofSettings_eq_error_iff]
  constructor
  · rintro ((⟨file, error, given, unreadable, rfl⟩ | ⟨base, gap, based, direct, lacks, rfl⟩) |
      ⟨settings, planned, unplanned⟩)
    · exact .unloaded given unreadable
    · exact .proxyGap based direct lacks
    · exact .unplanned planned unplanned
  · rintro (⟨given, unreadable⟩ | ⟨based, direct, lacks⟩ | ⟨planned, unplanned⟩)
    · exact .inl (.inl ⟨_, _, given, unreadable, rfl⟩)
    · exact .inl (.inr ⟨_, _, based, direct, lacks, rfl⟩)
    · exact .inr ⟨_, planned, unplanned⟩

end PlanReport

/-- A command line that is understood fails just as its plan does. -/
theorem Cli.run_eq_failed_iff (files : FileReader) (key : Nonce)
    {environment : String → Option String} {arguments : List String} {given : PlanArguments}
    (understood : Cli.read environment arguments = .ok given) :
    (∀ fault, Cli.run files environment key arguments = .failed fault ↔
      PlanReport.make files key given.config given.overrides = .error fault) ∧
    ((Cli.run files environment key arguments).code ≠ 0 ↔
      ∃ fault, PlanReport.make files key given.config given.overrides = .error fault) := by
  unfold Cli.run
  rw [understood]
  simp only
  cases PlanReport.make files key given.config given.overrides with
  | ok report => exact ⟨fun fault => ⟨nofun, nofun⟩, ⟨fun wrong => absurd rfl wrong, nofun⟩⟩
  | error fault =>
    refine ⟨fun other => ⟨fun same => ?_, fun same => ?_⟩, fun _ => ⟨fault, rfl⟩, fun _ => nofun⟩
    · cases same
      rfl
    · cases same
      rfl

/-- A plan is made of the merge of a file, or of the defaults, with the overrides: each field is
merged by itself, a proxy keeps its credentials, and placeholders stand in where neither half of
the credentials is known. What is shown is the plan of the configuration that the merge stands for.
The command fails if the file is not loaded, half of a new proxy is missing, or the merge is invalid
or has layers that cannot be built, and never for TLS. -/
theorem plan_of_merged_settings (read : FileReader) (key : Nonce) (path : Option String)
    (overrides : Overrides) :
    (∀ settings, PlanReport.settings read path overrides = .ok settings ↔
      PlanReport.Planned read path overrides settings) ∧
    (∀ report, PlanReport.make read key path overrides = .ok report ↔
      ∃ settings config, PlanReport.Planned read path overrides settings ∧
        settings.toConnectionConfig = .ok config ∧
        report.Shows read key config settings.timeoutSecs) ∧
    (∀ fault, PlanReport.make read key path overrides = .error fault ↔
      PlanReport.Refused read key path overrides fault) ∧
    ∀ environment arguments json,
      Cli.read environment arguments = .ok ⟨path, overrides, json⟩ →
      (∀ fault, Cli.run read environment key arguments = .failed fault ↔
        PlanReport.Refused read key path overrides fault) ∧
      ((Cli.run read environment key arguments).code ≠ 0 ↔
        ∃ fault, PlanReport.Refused read key path overrides fault) := by
  refine ⟨fun settings => PlanReport.settings_eq_ok_iff, fun report => ?_,
    fun fault => PlanReport.make_eq_error_iff, ?_⟩
  · unfold PlanReport.make
    simp only [bind_eq_ok_iff, PlanReport.settings_eq_ok_iff, PlanReport.ofSettings_eq_ok_iff,
      exists_and_left]
  · intro environment arguments json understood
    have fails := Cli.run_eq_failed_iff read key understood
    simpa only [PlanReport.make_eq_error_iff] using fails

/-- A reader that knows one settings file, which names a proxy and a bundle that is not there. -/
def Sample.planFile : FileReader := fun path =>
  if path = "hub.toml" then
    .ok ("host_name = 'hub.example.net'\nprotocol = 'amqps_ws'\nca_bundle = 'missing.pem'\n" ++
      "[proxy]\nhost = 'proxy'\nport = 3128\nusername = 'user'\npassword = 'secret'\n").toUTF8
  else .error .notFound

/-- What that file comes to under another port. -/
def Sample.planned : Settings where
  hostName := "hub.example.net"
  protocol := .amqpsWs
  userName := some "planner"
  sasToken := some "SharedAccessSignature sr=placeholder"
  proxy := some ⟨"proxy", 8080, some "user", some "secret"⟩
  caBundle := some "missing.pem"

/-- A port on the command line takes the place of that of the file, and the proxy keeps its name and
its credentials. The bundle that is not there is no reason to fail. -/
theorem plan_of_merged_proxy :
    let overrides : Overrides := { proxyPort := some 8080 }
    let arguments := ["plan", "-c", "hub.toml", "--proxy-port", "8080"]
    PlanReport.Planned Sample.planFile (some "hub.toml") overrides Sample.planned ∧
      Cli.read (fun _ => none) arguments = .ok ⟨some "hub.toml", overrides, false⟩ ∧
      (Cli.run Sample.planFile (fun _ => none) ⟨0⟩ arguments).code = 0 := by
  intro overrides arguments
  have merged : PlanReport.settings Sample.planFile (some "hub.toml") overrides =
      .ok Sample.planned := ok_of_toOption (by decide +kernel)
  have understood : Cli.read (fun _ => none) arguments =
      .ok ⟨some "hub.toml", overrides, false⟩ := rfl
  obtain ⟨planned, _, refused, fails⟩ :=
    plan_of_merged_settings Sample.planFile ⟨0⟩ (some "hub.toml") overrides
  refine ⟨(planned _).mp merged, understood, Decidable.not_not.mp fun wrong => ?_⟩
  obtain ⟨fault, refusal⟩ := (fails _ _ false understood).2.mp wrong
  have unplanned : PlanReport.ofSettings Sample.planFile ⟨0⟩ Sample.planned = .error fault := by
    rw [← (refused fault).mpr refusal, PlanReport.make, merged]
    rfl
  have shown : (PlanReport.ofSettings Sample.planFile ⟨0⟩ Sample.planned).toOption.isSome := by
    decide +kernel
  rw [unplanned] at shown
  cases shown

end AmqpHandshake
