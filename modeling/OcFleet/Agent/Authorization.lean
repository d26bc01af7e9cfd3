import OcFleet.Agent.AgentConfig
import OcFleet.Protocol.Wire

/-!
The authorization tables of the agent. `AgentAuthorization` is built once from
the security section of the configuration; callers are classified against it and
the method tables decide the rest. Sets of the source are lists here, read only
through membership.
-/

namespace OcFleet.Agent

open Foundation Protocol

inductive CallerClass where
  | controller
  | peer
  | disabledPeer
  | unknown
  deriving DecidableEq, Repr

def CallerClass.debugName : CallerClass → String
  | .controller => "Controller"
  | .peer => "Peer"
  | .disabledPeer => "DisabledPeer"
  | .unknown => "Unknown"

inductive PathProbeDecision where
  | allowed
  | disabled
  | missing
  | targetIsController
  | selfTarget
  deriving DecidableEq, Repr

structure AgentAuthorization (EndpointId : Type) where
  controllers : List EndpointId
  enabledPeers : List EndpointId
  disabledPeers : List EndpointId
  enabledPathProbes : List (EndpointId × EndpointId)
  disabledPathProbes : List (EndpointId × EndpointId)

section

variable {EndpointId : Type} [DecidableEq EndpointId] (codec : EndpointCodec EndpointId)

def parseEndpointId (value context : String) : Except String EndpointId :=
  match codec.fromStr value with
  | some endpointId => .ok endpointId
  | none => .error context

def controllerIds : List ControllerConfig → Except String (List EndpointId)
  | [] => .ok []
  | controller :: rest => do
      let endpointId ← parseEndpointId codec controller.endpointId
        ("invalid allowed controller endpoint id: " ++ controller.endpointId)
      let ids ← controllerIds rest
      .ok (endpointId :: ids)

/-- Enabled ids first, disabled ids second. -/
def peerIds : List PeerConfig → Except String (List EndpointId × List EndpointId)
  | [] => .ok ([], [])
  | peer :: rest => do
      let endpointId ← parseEndpointId codec peer.endpointId
        ("invalid allowed peer endpoint id: " ++ peer.endpointId)
      let (enabled, disabled) ← peerIds rest
      .ok (if peer.enabled then (endpointId :: enabled, disabled)
        else (enabled, endpointId :: disabled))

/-- Enabled pairs first, disabled pairs second. -/
def pathProbePairs : List PathProbeConfig →
    Except String (List (EndpointId × EndpointId) × List (EndpointId × EndpointId))
  | [] => .ok ([], [])
  | pathProbe :: rest => do
      let controllerEndpointId ← parseEndpointId codec pathProbe.controllerEndpointId
        ("invalid path probe controller endpoint id: " ++ pathProbe.controllerEndpointId)
      let targetEndpointId ← parseEndpointId codec pathProbe.targetEndpointId
        ("invalid path probe target endpoint id: " ++ pathProbe.targetEndpointId)
      let (enabled, disabled) ← pathProbePairs rest
      .ok (if pathProbe.enabled then
          ((controllerEndpointId, targetEndpointId) :: enabled, disabled)
        else (enabled, (controllerEndpointId, targetEndpointId) :: disabled))

def AgentAuthorization.fromSecurityConfig (config : SecurityConfig) :
    Except String (AgentAuthorization EndpointId) := do
  let controllers ← controllerIds codec config.controllers
  let (enabledPeers, disabledPeers) ← peerIds codec config.peers
  let (enabledPathProbes, disabledPathProbes) ← pathProbePairs codec config.pathProbes
  .ok { controllers, enabledPeers, disabledPeers, enabledPathProbes, disabledPathProbes }

namespace AgentAuthorization

variable (authz : AgentAuthorization EndpointId)

def classify (endpointId : EndpointId) : CallerClass :=
  if endpointId ∈ authz.controllers then .controller
  else if endpointId ∈ authz.enabledPeers then .peer
  else if endpointId ∈ authz.disabledPeers then .disabledPeer
  else .unknown

def controllerMethods : List String :=
  [nodePing, nodeInfo, nodeCapabilities, probeControllerPing, probePathEcho,
    ocservServiceSummary, ocservVersion, ocservSessionsSummary, ocservCertExpiry,
    ocservConfigFingerprint]

def methodAllowed (caller : CallerClass) (method : String) : Bool :=
  match caller with
  | .controller => method ∈ controllerMethods
  | .peer => method = probePeerEcho
  | .disabledPeer | .unknown => false

def pathProbeDecision (controllerEndpointId targetEndpointId sourceEndpointId : EndpointId) :
    PathProbeDecision :=
  if targetEndpointId = sourceEndpointId then .selfTarget
  else if targetEndpointId ∈ authz.controllers then .targetIsController
  else if targetEndpointId ∉ authz.enabledPeers then .missing
  else if (controllerEndpointId, targetEndpointId) ∈ authz.enabledPathProbes then .allowed
  else if (controllerEndpointId, targetEndpointId) ∈ authz.disabledPathProbes then .disabled
  else .missing

end AgentAuthorization

end

end OcFleet.Agent
