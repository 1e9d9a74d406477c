import AmqpHandshake.Proofs.Files
import AmqpHandshake.Proofs.TomlDocument
import AmqpHandshake.Settings.File

/-! Saving settings and loading them again: what the document says line by line, the tree it stands
for, and the settings that are read from the tree. -/
namespace AmqpHandshake.Settings

open Toml

def textEntry (key value : String) : String × Node := (key, .scalar (.string value))

def textEntries (key : String) : Option String → Entries
  | some value => [textEntry key value]
  | none => []

def numberEntry (key : String) (n : Nat) : String × Node := (key, .scalar (.integer n))

/-- A service link without parts. One with parts is a table. -/
def serviceLinkEntry : Option ServiceLink → Entries
  | none | some (.custom _) => []
  | some link => [textEntry "service_link" link.name]

/-- The single values of a document. -/
def valueEntries (settings : Settings) : Entries :=
  [textEntry "host_name" settings.hostName] ++ [textEntry "protocol" settings.protocol.name] ++
    textEntries "user_name" settings.userName ++ textEntries "sas_token" settings.sasToken ++
    textEntries "ca_bundle" settings.caBundle ++ serviceLinkEntry settings.serviceLink ++
    [numberEntry "timeout_secs" settings.timeoutSecs.toNat]

def proxyEntries (proxy : ProxyOptions) : Entries :=
  [textEntry "host" proxy.host] ++ [numberEntry "port" proxy.port.toNat] ++
    textEntries "username" proxy.username ++ textEntries "password" proxy.password

def linkEntries (spec : LinkSpec) : Entries :=
  [textEntry "name" spec.name] ++ [textEntry "address" spec.address] ++
    [textEntry "role" spec.role.name]

def proxySections : Option ProxyOptions → List Section
  | none => []
  | some proxy => [⟨["proxy"], proxyEntries proxy⟩]

def customLinkSections : Option ServiceLink → List Section
  | some (.custom spec) => [⟨["service_link", "custom"], linkEntries spec⟩]
  | _ => []

/-! ### The lines of a document -/

theorem fitsInt64_of_le {n : Nat} (small : n ≤ maxTimeout) : Text.fitsInt64 n = true := by
  have bound : Nat.pow 2 63 = 9223372036854775808 := rfl
  unfold maxTimeout at small
  unfold Text.fitsInt64
  rw [bound] at small ⊢
  simp only [Bool.and_eq_true, decide_eq_true_eq, Int.ofNat_eq_natCast]
  omega

theorem spells_line {key value : String} (bare : IsBarePath [key])
    (writes : Writes value.toList scalar) :
    Spells (line key value) ([(key, .scalar scalar)].map entryLine) where
  before := by
    intro more later reads
    have whole : (line key value).toList ++ more =
        dotted [key] ++ ' ' :: '=' :: ' ' :: (value.toList ++ '\n' :: more) := by
      simp [line, dotted]
    rw [whole]
    exact reads.entry bare writes

theorem spells_textLine {key : String} (bare : IsBarePath [key]) (value : String) :
    Spells (textLine key value) ([textEntry key value].map entryLine) := by
  refine spells_line bare ?_
  rw [String.toList_ofList]
  exact writes_text value

theorem spells_numberLine {key : String} (bare : IsBarePath [key]) {n : Nat}
    (small : n ≤ maxTimeout) :
    Spells (line key (toString n)) ([numberEntry key n].map entryLine) := by
  refine spells_line bare ?_
  rw [Nat.toString_eq_ofList_toDigits, String.toList_ofList]
  exact writes_number (fitsInt64_of_le small)

theorem spells_textLine? {key : String} (bare : IsBarePath [key]) (value : Option String) :
    Spells (textLine? key value) ((textEntries key value).map entryLine) := by
  cases value with
  | none => exact spells_empty
  | some value => exact spells_textLine bare value

theorem spells_header {name : String} {path : List String} (bare : IsBarePath path)
    (named : name.toList = dotted path) : Spells (header name) [.header path] where
  before := by
    intro more later reads
    have whole : (header name).toList ++ more =
        '\n' :: '[' :: (dotted path ++ ']' :: '\n' :: more) := by
      simp [header, named]
    rw [whole]
    exact reads.header bare

theorem spells_serviceLinkLine (link : Option ServiceLink) :
    Spells (serviceLinkLine link) ((serviceLinkEntry link).map entryLine) := by
  have named (name : String) :
      Spells (textLine "service_link" name) ([textEntry "service_link" name].map entryLine) :=
    spells_textLine (by decide) name
  cases link with
  | none => exact spells_empty
  | some link =>
    cases link with
    | custom spec => exact spells_empty
    | cloudToDeviceMessages => exact named _
    | feedback => exact named _
    | fileNotifications => exact named _

theorem spells_proxyTable (proxy : Option ProxyOptions) :
    Spells (proxyTable proxy) ((proxySections proxy).flatMap Section.lines) := by
  cases proxy with
  | none => exact spells_empty
  | some proxy =>
    have small : proxy.port.toNat ≤ maxTimeout := by
      have bound : maxTimeout = 9223372036854775807 := rfl
      have below : proxy.port.toNat < 65536 := proxy.port.toNat_lt
      omega
    have head : Spells (header "proxy") [.header ["proxy"]] := spells_header (by decide) (by decide)
    have host := spells_textLine (by decide : IsBarePath ["host"]) proxy.host
    have port := spells_numberLine (by decide : IsBarePath ["port"]) small
    have username := spells_textLine? (by decide : IsBarePath ["username"]) proxy.username
    have password := spells_textLine? (by decide : IsBarePath ["password"]) proxy.password
    simpa [proxyTable, proxySections, Section.lines, proxyEntries] using
      (((head.append host).append port).append username).append password

theorem spells_customLinkTable (link : Option ServiceLink) :
    Spells (customLinkTable link) ((customLinkSections link).flatMap Section.lines) := by
  cases link with
  | none => exact spells_empty
  | some link =>
    cases link with
    | cloudToDeviceMessages => exact spells_empty
    | feedback => exact spells_empty
    | fileNotifications => exact spells_empty
    | custom spec =>
      have head : Spells (header "service_link.custom") [.header ["service_link", "custom"]] :=
        spells_header (by decide) (by decide)
      have name := spells_textLine (by decide : IsBarePath ["name"]) spec.name
      have address := spells_textLine (by decide : IsBarePath ["address"]) spec.address
      have role := spells_textLine (by decide : IsBarePath ["role"]) spec.role.name
      simpa [customLinkTable, customLinkSections, Section.lines, linkEntries] using
        ((head.append name).append address).append role

/-- A document says its single values, then its tables. -/
theorem spells_document {settings : Settings} (small : settings.timeoutSecs.toNat ≤ maxTimeout) :
    Spells settings.document (settings.valueEntries.map entryLine ++
      (proxySections settings.proxy ++ customLinkSections settings.serviceLink).flatMap
        Section.lines) := by
  have host := spells_textLine (by decide : IsBarePath ["host_name"]) settings.hostName
  have protocol := spells_textLine (by decide : IsBarePath ["protocol"]) settings.protocol.name
  have user := spells_textLine? (by decide : IsBarePath ["user_name"]) settings.userName
  have token := spells_textLine? (by decide : IsBarePath ["sas_token"]) settings.sasToken
  have bundle := spells_textLine? (by decide : IsBarePath ["ca_bundle"]) settings.caBundle
  have link := spells_serviceLinkLine settings.serviceLink
  have timeout := spells_numberLine (by decide : IsBarePath ["timeout_secs"]) small
  have values := (((((host.append protocol).append user).append token).append bundle).append
    link).append timeout
  simpa [document, valueEntries] using
    (values.append (spells_proxyTable settings.proxy)).append
      (spells_customLinkTable settings.serviceLink)

/-! ### The tree of a document -/

def proxyTables : Option ProxyOptions → Entries
  | none => []
  | some proxy => [("proxy", .table .header (proxyEntries proxy))]

def customLinkTables : Option ServiceLink → Entries
  | some (.custom spec) =>
    [("service_link", .table .implicit [("custom", .table .header (linkEntries spec))])]
  | _ => []

theorem keys_textEntries (key : String) (value : Option String) :
    List.Sublist ((textEntries key value).map Prod.fst) [key] := by
  cases value with
  | none => exact List.nil_sublist _
  | some value => exact List.Sublist.refl _

theorem keys_serviceLinkEntry (link : Option ServiceLink) :
    List.Sublist ((serviceLinkEntry link).map Prod.fst) ["service_link"] := by
  cases link with
  | none => exact List.nil_sublist _
  | some link =>
    cases link with
    | custom spec => exact List.nil_sublist _
    | cloudToDeviceMessages => exact List.Sublist.refl _
    | feedback => exact List.Sublist.refl _
    | fileNotifications => exact List.Sublist.refl _

/-- The keys of single values, with those of a service link between them. -/
theorem keys_valueEntries (settings : Settings) :
    List.Sublist (settings.valueEntries.map Prod.fst)
      (["host_name", "protocol", "user_name", "sas_token", "ca_bundle"] ++
        (serviceLinkEntry settings.serviceLink).map Prod.fst ++ ["timeout_secs"]) := by
  have user := keys_textEntries "user_name" settings.userName
  have token := keys_textEntries "sas_token" settings.sasToken
  have bundle := keys_textEntries "ca_bundle" settings.caBundle
  have texts := (((List.Sublist.refl ["host_name", "protocol"]).append user).append token).append
    bundle
  simpa [valueEntries, textEntry, numberEntry] using
    (texts.append (List.Sublist.refl ((serviceLinkEntry settings.serviceLink).map Prod.fst))).append
      (List.Sublist.refl ["timeout_secs"])

def valueKeys : List String :=
  ["host_name", "protocol", "user_name", "sas_token", "ca_bundle", "service_link", "timeout_secs"]

theorem keys_valueEntries_sublist (settings : Settings) :
    List.Sublist (settings.valueEntries.map Prod.fst) valueKeys := by
  have link := keys_serviceLinkEntry settings.serviceLink
  exact (keys_valueEntries settings).trans
    (((List.Sublist.refl _).append link).append (List.Sublist.refl _))

theorem keys_proxyTables (proxy : Option ProxyOptions) :
    List.Sublist ((proxyTables proxy).map Prod.fst) ["proxy"] := by
  cases proxy with
  | none => exact List.nil_sublist _
  | some proxy => exact List.Sublist.refl _

theorem keys_proxyEntries (proxy : ProxyOptions) : ((proxyEntries proxy).map Prod.fst).Nodup := by
  have username := keys_textEntries "username" proxy.username
  have password := keys_textEntries "password" proxy.password
  have keys : List.Sublist ((proxyEntries proxy).map Prod.fst)
      ["host", "port", "username", "password"] := by
    simpa [proxyEntries, textEntry, numberEntry] using
      ((List.Sublist.refl ["host", "port"]).append username).append password
  exact keys.nodup (by decide)

theorem keys_linkEntries (spec : LinkSpec) : ((linkEntries spec).map Prod.fst).Nodup := by
  have keys : ["name", "address", "role"].Nodup := by decide
  exact keys

/-- A link with parts has no single value, so its name is free for its table. -/
theorem service_link_absent {settings : Settings} {spec : LinkSpec}
    (link : settings.serviceLink = some (.custom spec)) :
    "service_link" ∉ (settings.valueEntries ++ proxyTables settings.proxy).map Prod.fst := by
  have keys := (keys_valueEntries settings).append (keys_proxyTables settings.proxy)
  rw [link] at keys
  rw [List.map_append]
  intro member
  have others : "service_link" ∉
      ["host_name", "protocol", "user_name", "sas_token", "ca_bundle", "timeout_secs", "proxy"] := by
    decide
  exact others (keys.subset member)

theorem foldlM_proxySections {root : Entries} (absent : "proxy" ∉ root.map Prod.fst)
    (proxy : Option ProxyOptions) :
    ((proxySections proxy).map Section.block).foldlM addBlock? root =
      some (root ++ proxyTables proxy) := by
  cases proxy with
  | none => exact congrArg some (List.append_nil _).symm
  | some proxy =>
    have added := addBlock?_table absent (keys_proxyEntries proxy)
    simp [proxySections, proxyTables, added]

theorem foldlM_customLinkSections {root : Entries} {link : Option ServiceLink}
    (absent : ∀ spec, link = some (.custom spec) → "service_link" ∉ root.map Prod.fst) :
    ((customLinkSections link).map Section.block).foldlM addBlock? root =
      some (root ++ customLinkTables link) := by
  cases link with
  | none => exact congrArg some (List.append_nil _).symm
  | some link =>
    cases link with
    | cloudToDeviceMessages => exact congrArg some (List.append_nil _).symm
    | feedback => exact congrArg some (List.append_nil _).symm
    | fileNotifications => exact congrArg some (List.append_nil _).symm
    | custom spec =>
      have added : addBlock? root (Section.block ⟨["service_link", "custom"], linkEntries spec⟩) =
          some (root ++ customLinkTables (some (.custom spec))) :=
        addBlock?_inner (absent spec rfl) (keys_linkEntries spec)
      simp [customLinkSections, added]

theorem treeOf?_document (settings : Settings) :
    treeOf? (settings.valueEntries.map entryLine ++
      (proxySections settings.proxy ++ customLinkSections settings.serviceLink).flatMap
        Section.lines) =
      some (settings.valueEntries ++ proxyTables settings.proxy ++
        customLinkTables settings.serviceLink) := by
  have keys := keys_valueEntries_sublist settings
  have apart : (settings.valueEntries.map Prod.fst).Nodup :=
    keys.nodup (by decide : valueKeys.Nodup)
  have absent : "proxy" ∉ settings.valueEntries.map Prod.fst := fun member =>
    (by decide : "proxy" ∉ valueKeys) (keys.subset member)
  rw [treeOf?_sections apart, List.map_append, List.foldlM_append, foldlM_proxySections absent]
  exact foldlM_customLinkSections fun spec link => service_link_absent link

/-! ### The settings of a tree -/

theorem natural_ok {n limit : Nat} (below : n < limit) (kind : String) :
    Read.natural limit kind (.scalar (.integer n)) = .ok n := by
  have inside : (0 : Int) ≤ n ∧ (n : Int) < limit := ⟨Int.natCast_nonneg n, Int.ofNat_lt.mpr below⟩
  rw [Read.natural, if_pos inside]
  rfl

theorem port_ok (port : UInt16) : Read.port (.scalar (.integer port.toNat)) = .ok port := by
  rw [Read.port, natural_ok port.toNat_lt]
  exact congrArg Except.ok (UInt16.ofNat_toNat)

theorem seconds_ok (seconds : UInt64) :
    Read.seconds (.scalar (.integer seconds.toNat)) = .ok seconds := by
  rw [Read.seconds, natural_ok seconds.toNat_lt]
  exact congrArg Except.ok (UInt64.ofNat_toNat)

section Fold

variable {read : α → String × Node → Except ε α}

theorem foldlM_append_ok {before middle after : α} {first second : Entries}
    (front : first.foldlM read before = .ok middle) (rest : second.foldlM read middle = .ok after) :
    (first ++ second).foldlM read before = .ok after := by
  rw [List.foldlM_append, front]
  exact rest

theorem foldlM_singleton_ok {before after : α} {entry : String × Node}
    (taken : read before entry = .ok after) : [entry].foldlM read before = .ok after := by
  rw [List.foldlM_cons, taken]
  rfl

end Fold

theorem proxy_ok (proxy : ProxyOptions) :
    Read.proxy (.table .header (proxyEntries proxy)) = .ok proxy := by
  have host : Read.ProxyFields.read ⟨none, none, none, none⟩ (textEntry "host" proxy.host) =
      .ok ⟨some proxy.host, none, none, none⟩ := rfl
  have port : Read.ProxyFields.read ⟨some proxy.host, none, none, none⟩
      (numberEntry "port" proxy.port.toNat) =
        .ok ⟨some proxy.host, some proxy.port, none, none⟩ := by
    rw [numberEntry, Read.ProxyFields.read, port_ok]
    rfl
  have username : (textEntries "username" proxy.username).foldlM Read.ProxyFields.read
      ⟨some proxy.host, some proxy.port, none, none⟩ =
        .ok ⟨some proxy.host, some proxy.port, proxy.username, none⟩ := by
    cases proxy.username <;> rfl
  have password : (textEntries "password" proxy.password).foldlM Read.ProxyFields.read
      ⟨some proxy.host, some proxy.port, proxy.username, none⟩ =
        .ok ⟨some proxy.host, some proxy.port, proxy.username, proxy.password⟩ := by
    cases proxy.password <;> rfl
  have place := foldlM_append_ok (foldlM_singleton_ok host) (foldlM_singleton_ok port)
  have fields := foldlM_append_ok (foldlM_append_ok place username) password
  have finished : ((proxyEntries proxy).foldlM Read.ProxyFields.read ⟨none, none, none, none⟩ >>=
      Read.ProxyFields.finish) = .ok proxy := by
    rw [proxyEntries, fields]
    rfl
  exact finished

theorem protocol_ok (protocol : Protocol) :
    Read.protocol (.scalar (.string protocol.name)) = .ok protocol := by
  cases protocol <;> rfl

theorem role_ok (role : LinkRole) : Read.role (.scalar (.string role.name)) = .ok role := by
  cases role <;> rfl

theorem linkSpec_ok (spec : LinkSpec) :
    Read.linkSpec (.table .header (linkEntries spec)) = .ok spec := by
  have name : Read.SpecFields.read ⟨none, none, none⟩ (textEntry "name" spec.name) =
      .ok ⟨some spec.name, none, none⟩ := rfl
  have address : Read.SpecFields.read ⟨some spec.name, none, none⟩
      (textEntry "address" spec.address) = .ok ⟨some spec.name, some spec.address, none⟩ := rfl
  have role : Read.SpecFields.read ⟨some spec.name, some spec.address, none⟩
      (textEntry "role" spec.role.name) =
        .ok ⟨some spec.name, some spec.address, some spec.role⟩ := by
    rw [textEntry, Read.SpecFields.read, role_ok]
    rfl
  have place := foldlM_append_ok (foldlM_singleton_ok name) (foldlM_singleton_ok address)
  have fields := foldlM_append_ok place (foldlM_singleton_ok role)
  have finished : ((linkEntries spec).foldlM Read.SpecFields.read ⟨none, none, none⟩ >>=
      Read.SpecFields.finish) = .ok spec := by
    rw [linkEntries, fields]
    rfl
  exact finished

/-- What the single values tell of a service link. -/
def singleLink : Option ServiceLink → Option ServiceLink
  | none | some (.custom _) => none
  | some link => some link

theorem foldlM_serviceLinkEntry (settings : Settings) (link : Option ServiceLink) :
    (serviceLinkEntry link).foldlM Read.entry { settings with serviceLink := none } =
      .ok { settings with serviceLink := singleLink link } := by
  cases link with
  | none => rfl
  | some link => cases link <;> rfl

theorem foldlM_customLinkTables (settings : Settings) (link : Option ServiceLink) :
    (customLinkTables link).foldlM Read.entry { settings with serviceLink := singleLink link } =
      .ok { settings with serviceLink := link } := by
  cases link with
  | none => rfl
  | some link =>
    cases link with
    | cloudToDeviceMessages => rfl
    | feedback => rfl
    | fileNotifications => rfl
    | custom spec =>
      refine foldlM_singleton_ok ?_
      have table : Read.serviceLink
          (.table .implicit [("custom", .table .header (linkEntries spec))]) =
            .ok (.custom spec) := by
        change ServiceLink.custom <$> Read.linkSpec (.table .header (linkEntries spec)) = _
        rw [linkSpec_ok]
        rfl
      rw [Read.entry, table]
      rfl

theorem foldlM_proxyTables (settings : Settings) (proxy : Option ProxyOptions) :
    (proxyTables proxy).foldlM Read.entry { settings with proxy := none } =
      .ok { settings with proxy := proxy } := by
  cases proxy with
  | none => rfl
  | some proxy =>
    refine foldlM_singleton_ok ?_
    rw [Read.entry, proxy_ok]
    rfl

theorem foldlM_valueEntries (settings : Settings) :
    settings.valueEntries.foldlM Read.entry {} =
      .ok { settings with proxy := none, serviceLink := singleLink settings.serviceLink } := by
  have host : Read.entry {} (textEntry "host_name" settings.hostName) =
      .ok { hostName := settings.hostName } := rfl
  have protocol : Read.entry { hostName := settings.hostName }
      (textEntry "protocol" settings.protocol.name) =
        .ok { hostName := settings.hostName, protocol := settings.protocol } := by
    rw [textEntry, Read.entry, protocol_ok]
    rfl
  have user : (textEntries "user_name" settings.userName).foldlM Read.entry
      { hostName := settings.hostName, protocol := settings.protocol } =
        .ok { hostName := settings.hostName, protocol := settings.protocol,
              userName := settings.userName } := by
    cases settings.userName <;> rfl
  have token : (textEntries "sas_token" settings.sasToken).foldlM Read.entry
      { hostName := settings.hostName, protocol := settings.protocol,
        userName := settings.userName } =
        .ok { hostName := settings.hostName, protocol := settings.protocol,
              userName := settings.userName, sasToken := settings.sasToken } := by
    cases settings.sasToken <;> rfl
  have bundle : (textEntries "ca_bundle" settings.caBundle).foldlM Read.entry
      { hostName := settings.hostName, protocol := settings.protocol,
        userName := settings.userName, sasToken := settings.sasToken } =
        .ok { settings with proxy := none, serviceLink := none, timeoutSecs := 60 } := by
    cases settings.caBundle <;> rfl
  -- The proxy and a link with parts are told by the tables behind.
  have link := foldlM_serviceLinkEntry { settings with proxy := none, timeoutSecs := 60 }
    settings.serviceLink
  have timeout : Read.entry { settings with
      proxy := none, serviceLink := singleLink settings.serviceLink, timeoutSecs := 60 }
      (numberEntry "timeout_secs" settings.timeoutSecs.toNat) =
        .ok { settings with proxy := none, serviceLink := singleLink settings.serviceLink } := by
    rw [numberEntry, Read.entry, seconds_ok]
    rfl
  have place := foldlM_append_ok (foldlM_singleton_ok host) (foldlM_singleton_ok protocol)
  have secrets := foldlM_append_ok (foldlM_append_ok place user) token
  have extras := foldlM_append_ok (foldlM_append_ok secrets bundle) link
  exact foldlM_append_ok extras (foldlM_singleton_ok timeout)

theorem ofEntries_document (settings : Settings) :
    ofEntries (settings.valueEntries ++ proxyTables settings.proxy ++
      customLinkTables settings.serviceLink) = .ok settings := by
  have values := foldlM_valueEntries settings
  have proxied := foldlM_proxyTables
    { settings with serviceLink := singleLink settings.serviceLink } settings.proxy
  have linked := foldlM_customLinkTables settings settings.serviceLink
  exact foldlM_append_ok (foldlM_append_ok values proxied) linked

/-! ### Saving and loading -/

theorem head_document (settings : Settings) : settings.document.toList.head? = some 'h' := by
  simp [document, textLine, line]

theorem read?_document {settings : Settings} (small : settings.timeoutSecs.toNat ≤ maxTimeout) :
    Toml.read? settings.document.toList =
      some (settings.valueEntries ++ proxyTables settings.proxy ++
        customLinkTables settings.serviceLink) := by
  have start : settings.document.toList.head? ≠ some byteOrderMark := by
    rw [head_document]
    decide
  rw [(spells_document small).reads.read?_eq start]
  exact treeOf?_document settings

/-- A file that holds the document of settings is loaded as the settings. -/
theorem load_document {settings : Settings} (small : settings.timeoutSecs.toNat ≤ maxTimeout)
    {read : FileReader} {path : String} (found : read path = .ok settings.document.toUTF8) :
    load read path = .ok settings := by
  rw [load, found]
  simp only [Utf8.decode?_toUTF8, read?_document small, ofEntries_document]

/-- Settings whose timeout the format can hold are saved at every path that can be written, and
loading the path gives them back. A timeout that is too large is an error at every path, and the
files stay as they were. -/
theorem save_load (settings : Settings) (files : FileTree) (path : String) :
    (settings.timeoutSecs.toNat ≤ maxTimeout → files.Writable path →
      ∃ after, settings.saveIn path files = (.ok (), after) ∧
        settings.save files path = .ok after ∧ load after.read path = .ok settings) ∧
    (maxTimeout < settings.timeoutSecs.toNat →
      settings.saveIn path files = (.error (.settings .timeoutOutOfRange), files) ∧
        settings.save files path = .error (.settings .timeoutOutOfRange)) := by
  constructor
  · intro small writable
    obtain ⟨after, written⟩ := writable.write settings.document.toUTF8
    have saved : settings.saveIn path files = (.ok (), after) := by
      rw [saveIn, fileText, if_pos small]
      simp only [written]
    exact ⟨after, saved, by rw [save, saved], load_document small (FileTree.read_write written)⟩
  · intro large
    have refused : settings.saveIn path files =
        (.error (.settings .timeoutOutOfRange), files) := by
      rw [saveIn, fileText, if_neg (Nat.not_le.mpr large)]
    exact ⟨refused, by rw [save, refused]⟩

/-- Settings with each kind of text: marks of both kinds, line ends, backslashes and control
characters. -/
def markedSettings (timeoutSecs : UInt64) : Settings where
  hostName := "h\"u\"b"
  protocol := .amqpsWs
  userName := some "it\x27s \"me\"\n\x27\x27\x27"
  sasToken := some "\"\"\"\"\r\n\\"
  proxy := some ⟨"", 65535, none, some "\x01\x7f\t"⟩
  caBundle := some "roots\\ä.pem"
  serviceLink := some (.custom ⟨"]", "[x]\n", .receiver⟩)
  timeoutSecs := timeoutSecs

/-- A directory with a file in it. -/
def sampleFiles : FileTree := ⟨[(["etc", "hub.toml"], .file "old".toUTF8)]⟩

theorem save_load_markedSettings :
    ((markedSettings 9223372036854775807).timeoutSecs.toNat ≤ maxTimeout ∧
      sampleFiles.Writable "etc/hub.toml" ∧
      ∃ after, (markedSettings 9223372036854775807).saveIn "etc/hub.toml" sampleFiles =
          (.ok (), after) ∧
        (markedSettings 9223372036854775807).save sampleFiles "etc/hub.toml" = .ok after ∧
        load after.read "etc/hub.toml" = .ok (markedSettings 9223372036854775807)) ∧
    maxTimeout < (markedSettings 9223372036854775808).timeoutSecs.toNat ∧
      (markedSettings 9223372036854775808).saveIn "etc/hub.toml" sampleFiles =
        (.error (.settings .timeoutOutOfRange), sampleFiles) ∧
      (markedSettings 9223372036854775808).save sampleFiles "etc/hub.toml" =
        .error (.settings .timeoutOutOfRange) := by
  have small : (markedSettings 9223372036854775807).timeoutSecs.toNat ≤ maxTimeout := by decide
  have writable : sampleFiles.Writable "etc/hub.toml" := ⟨.empty, _, rfl⟩
  have large : maxTimeout < (markedSettings 9223372036854775808).timeoutSecs.toNat := by decide
  exact ⟨⟨small, writable, (save_load _ sampleFiles "etc/hub.toml").1 small writable⟩, large,
    (save_load _ sampleFiles "etc/hub.toml").2 large⟩

end AmqpHandshake.Settings
