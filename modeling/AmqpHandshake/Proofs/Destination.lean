import AmqpHandshake.Proofs.Tunnel

/-! Where a web socket leads to. Its address is a text with the host in it, so the host itself says
where that text is cut: at its first delimiter, behind its last at sign, at its brackets and at its
colon. -/
namespace AmqpHandshake

theorem Uri.parse_ok {scheme rest : String} {uri : Uri} (parsed : parse scheme rest = .ok uri) :
    ∃ tail, Authority.split rest.toList = .ok (uri.authority, tail) ∧
      parsePath tail = .ok (uri.path, uri.query) ∧ uri.scheme = scheme := by
  unfold parse at parsed
  split at parsed
  · cases parsed
  · obtain ⟨⟨authority, tail⟩, cut, parsed⟩ := bind_ok parsed
    dsimp only at parsed
    split at parsed
    · cases parsed
    · obtain ⟨⟨path, query⟩, followed, done⟩ := bind_ok parsed
      cases done
      exact ⟨tail, cut, followed, rfl⟩

namespace WebSocketLayer

/-- The layer to a host, whether its address can be formed or not. -/
def toHost (host : String) : WebSocketLayer :=
  ⟨host, webSocketPath, webSocketPort, webSocketSubProtocol⟩

theorem authorityText_toHost (host : String) : (toHost host).authorityText = host ++ ":443" :=
  append_webSocketPort host

/-- A layer is formed for a host only if its address can be formed. -/
theorem ofHost_ok {host : String} {layer : WebSocketLayer} (accepted : ofHost host = .ok layer) :
    layer = toHost host ∧ ∃ uri, layer.uri = .ok uri := by
  obtain ⟨uri, formed, done⟩ := bind_ok accepted
  cases done
  exact ⟨rfl, uri, formed⟩

theorem uri_toHost {host : String} {uri : Uri} (formed : (toHost host).uri = .ok uri) :
    Uri.parse "wss" (host ++ ":443" ++ webSocketPath) = .ok uri := by
  rw [← authorityText_toHost]
  unfold WebSocketLayer.uri at formed
  split at formed
  · rename_i parsed
    cases formed
    exact parsed
  · cases formed

/-- The address that a host without delimiters gives. -/
def address (host : String) : Uri := ⟨"wss", (host ++ ":443").toList, webSocketPath.toList, none⟩

/-- Without a delimiter in the host, the address is cut behind the port, in front of the path. -/
theorem uri_of_undelimited {host : String} {uri : Uri} (formed : (toHost host).uri = .ok uri)
    (undelimited : Authority.Undelimited (host ++ ":443").toList) :
    uri = address host ∧ Authority.check (host ++ ":443").toList = .ok () := by
  obtain ⟨tail, cut, followed, scheme⟩ := Uri.parse_ok (uri_toHost formed)
  obtain ⟨taken, dropped, checked⟩ := Authority.split_ok cut
  have free : ∀ c ∈ (host ++ ":443").toList, (!Authority.endsAuthority c) = true := by
    intro c member
    rw [undelimited c member]
    rfl
  rw [String.toList_append, List.takeWhile_append_of_pos free] at taken
  rw [String.toList_append, List.dropWhile_append_of_pos free] at dropped
  have authority : uri.authority = (host ++ ":443").toList :=
    taken.trans (List.append_nil _)
  have path : (webSocketPath.toList, none) = (uri.path, uri.query) := by
    rw [dropped] at followed
    exact Except.ok.inj followed
  obtain ⟨samePath, noQuery⟩ := Prod.mk.inj path
  refine ⟨?_, authority ▸ checked⟩
  rw [address, ← scheme, ← authority, samePath, noQuery]

/-- An address with host and port for its authority has no delimiter in them. -/
theorem undelimited_of_authority {host : String} {uri : Uri}
    (formed : (toHost host).uri = .ok uri)
    (whole : String.ofList uri.authority = host ++ ":443") :
    Authority.Undelimited (host ++ ":443").toList := by
  obtain ⟨tail, cut, _⟩ := Uri.parse_ok (uri_toHost formed)
  obtain ⟨_, _, checked⟩ := Authority.split_ok cut
  rw [← whole, String.toList_ofList]
  exact Authority.undelimited_of_check checked

theorem isHeaderCharacter_of_visible {c : Char} (visible : 33 ≤ c.toNat ∧ c.toNat < 127) :
    isHeaderCharacter c = true := by
  simp only [isHeaderCharacter, Bool.or_eq_true, Bool.and_eq_true, decide_eq_true_eq]
  omega

/-- With an authority for host and port, every header of the request can be sent. -/
theorem upgradeRequest_ok {host : String} {uri : Uri} (formed : (toHost host).uri = .ok uri)
    (checked : Authority.check (host ++ ":443").toList = .ok ()) (key : Nonce) :
    (toHost host).upgradeRequest key = .ok ⟨uri, (toHost host).headers key⟩ := by
  have target : (toHost host).authorityText.toList.all isHeaderCharacter = true := by
    rw [authorityText_toHost]
    apply List.all_eq_true.mpr
    intro c member
    apply isHeaderCharacter_of_visible
    exact Authority.visible_of_isOwn (Authority.isOwn_of_check checked c member)
  have letters : (Base64.encode key.bytes).all isHeaderCharacter = true := by
    apply List.all_eq_true.mpr
    intro c member
    exact isHeaderCharacter_of_visible (Base64.visible_of_mem_encode member)
  have fixed : ["Upgrade", "websocket", "13", webSocketSubProtocol].all
      (·.toList.all isHeaderCharacter) = true := by decide
  rw [upgradeRequest, formed]
  refine if_pos ?_
  simp only [headers, List.all_cons, List.all_nil, target, String.toList_ofList, letters,
    Bool.true_and] at fixed ⊢
  exact fixed

theorem port?_address (host : String) : Authority.port? (host ++ ":443").toList = some 443 := by
  have cut : Text.cutLast ':' (host ++ ":443").toList = some (host.toList, "443".toList) := by
    rw [String.toList_append]
    exact Text.cutLast_append host.toList (by decide)
  rw [Authority.port?, cut]
  rfl

/-- A layer leads to a host: its address has the host, the WebSocket port, the path of the hub and
no query, and the request for an upgrade goes to that address, with host and port in its host
header, whatever its key. -/
def LeadsTo (layer : WebSocketLayer) (host : String) : Prop :=
  ∃ uri, layer.uri = .ok uri ∧
    String.ofList uri.authority = host ++ ":443" ∧
    String.ofList (Authority.host uri.authority) = host ∧
    Authority.port? uri.authority = some 443 ∧
    uri.pathText = "/$iothub/websocket" ∧ uri.query = none ∧
    ∀ key, ∃ request, layer.upgradeRequest key = .ok request ∧ request.uri = uri ∧
      request.headers.lookup "host" = some (host ++ ":443")

/-- An accepted host is the one that its layer leads to exactly if no character of it ends an
authority and it is the whole host of one. -/
theorem leadsTo_iff {host : String} {layer : WebSocketLayer} (accepted : ofHost host = .ok layer) :
    layer.LeadsTo host ↔
      Authority.Undelimited host.toList ∧ Authority.IsHost host.toList := by
  obtain ⟨rfl, uri, formed⟩ := ofHost_ok accepted
  have port : (host ++ ":443").toList = host.toList ++ ':' :: "443".toList := by
    rw [String.toList_append]
    rfl
  -- The port adds no delimiter and no bracket, so both conditions come down to the host alone.
  have undelimitedPort : Authority.Undelimited (host ++ ":443").toList ↔
      Authority.Undelimited host.toList := by
    rw [port, Authority.undelimited_append]
    exact and_iff_left (by decide)
  constructor
  · rintro ⟨other, found, authority, hostPart, _⟩
    have undelimited := undelimited_of_authority found authority
    obtain ⟨rfl, checked⟩ := uri_of_undelimited found undelimited
    refine ⟨undelimitedPort.mp undelimited, ?_⟩
    apply (Authority.host_with_port_iff (port ▸ checked) (by decide) (by decide)).mp
    rw [← port, ← String.toList_ofList (l := Authority.host _)]
    exact congrArg String.toList hostPart
  · rintro ⟨free, isHost⟩
    obtain ⟨rfl, checked⟩ := uri_of_undelimited formed (undelimitedPort.mpr free)
    refine ⟨_, formed, String.ofList_toList, ?_, port?_address host, rfl, rfl, ?_⟩
    · have whole :=
        (Authority.host_with_port_iff (port ▸ checked) (by decide) (by decide)).mpr isHost
      rw [address, port, whole, String.ofList_toList]
    · intro key
      refine ⟨_, upgradeRequest_ok formed checked key, rfl, ?_⟩
      exact congrArg some (authorityText_toHost host)

theorem leadsTo_iff_of_brackets :
    (ofHost "[::1]" = .ok (toHost "[::1]") ∧ (toHost "[::1]").LeadsTo "[::1]") ∧
      ofHost "[::1]x" = .ok (toHost "[::1]x") ∧ ¬ (toHost "[::1]x").LeadsTo "[::1]x" :=
  ⟨⟨rfl, (leadsTo_iff rfl).mpr (by decide)⟩, rfl, mt (leadsTo_iff rfl).mp (by decide)⟩

/-- A delimiter in the host moves the port into the path, and the layer is formed all the same. -/
theorem leads_elsewhere : ¬ ∀ host layer, ofHost host = .ok layer → layer.LeadsTo host := by
  intro leads
  obtain ⟨uri, formed, authority, _⟩ := leads "hub.example.net/x" (toHost "hub.example.net/x") rfl
  have cut : (toHost "hub.example.net/x").uri =
      .ok ⟨"wss", "hub.example.net".toList, "/x:443/$iothub/websocket".toList, none⟩ := rfl
  obtain rfl := Except.ok.inj (cut.symm.trans formed)
  exact absurd authority (by decide)

end WebSocketLayer

namespace ConnectionConfig

/-- Through a proxy, the tunnel is opened to the authority that the web socket addresses, and the
host header of its upgrade names the same one, while the connection itself goes to the proxy. -/
theorem layers_share_destination {config : ConnectionConfig} {proxy : ProxyOptions}
    {plan : LayerPlan} (framed : config.protocol = .amqpsWs) (through : config.proxy = some proxy)
    (planned : config.layers = .ok plan) :
    ∃ layer tunnel uri, plan.webSocket = some layer ∧ plan.proxy = some tunnel ∧
      layer.uri = .ok uri ∧ String.ofList uri.authority = tunnel.destination ∧
      uri.pathText = "/$iothub/websocket" ∧ uri.query = none ∧
      (∀ key, ∃ request, layer.upgradeRequest key = .ok request ∧ request.uri = uri ∧
        request.headers.lookup "host" = some tunnel.destination) ∧
      config.endpoint = ⟨proxy.host, proxy.port⟩ := by
  have asked : config.protocol.isWebSocket = true := by
    rw [framed]
    rfl
  obtain ⟨layer, tunnel, hasSocket, hasTunnel, accepted, opened⟩ :=
    layers_through_proxy asked through planned
  obtain ⟨rfl, uri, formed⟩ := WebSocketLayer.ofHost_ok accepted
  obtain ⟨rfl, checked⟩ := ProxyLayer.ofHost_ok opened
  obtain ⟨rfl, _⟩ :=
    WebSocketLayer.uri_of_undelimited formed (Authority.undelimited_of_check checked)
  refine ⟨_, _, _, hasSocket, hasTunnel, formed, String.ofList_toList, rfl, rfl, ?_, ?_⟩
  · intro key
    refine ⟨_, WebSocketLayer.upgradeRequest_ok formed checked key, rfl, ?_⟩
    exact congrArg some (WebSocketLayer.authorityText_toHost config.hostName)
  · rw [endpoint, framed, through]

/-- A host with a user name, an escape and an address in brackets. -/
def throughProxy : ConnectionConfig :=
  ⟨"gate%20keeper@[::1]", .amqpsWs, some (.plain "proxy.example.net" 3128), .default,
    .sharedAccessSignature "owner" "signature", none⟩

theorem layers_share_destination_of_user :
    ∃ layer tunnel uri,
      throughProxy.layers = .ok ⟨some layer, anonymousMechanism, some tunnel⟩ ∧
      tunnel.destination = "gate%20keeper@[::1]:443" ∧
      layer.uri = .ok uri ∧ String.ofList uri.authority = tunnel.destination ∧
      uri.pathText = "/$iothub/websocket" ∧ uri.query = none ∧
      (∀ key, ∃ request, layer.upgradeRequest key = .ok request ∧ request.uri = uri ∧
        request.headers.lookup "host" = some tunnel.destination) ∧
      throughProxy.endpoint = ⟨"proxy.example.net", 3128⟩ := by
  have planned : throughProxy.layers = .ok ⟨some (.toHost "gate%20keeper@[::1]"),
      anonymousMechanism, some ⟨"gate%20keeper@[::1]:443", none⟩⟩ := rfl
  obtain ⟨layer, tunnel, uri, hasSocket, hasTunnel, agreed⟩ :=
    layers_share_destination rfl rfl planned
  cases hasSocket
  cases hasTunnel
  exact ⟨_, _, uri, planned, rfl, agreed⟩

end ConnectionConfig

end AmqpHandshake
