import ClusterVault.Node.Options
import ClusterVault.Node.Procedure
import Std.Data.ExtTreeMap

/-!
# Repairing the membership

A node that left its cluster without a word is still registered. Before it joins again it removes
what it left behind and registers anew.

## Main definitions

- `Repair.isStale`: whether an entry of the registry was left behind by a node
- `Repair.peersAfter`: the peers that the node starts with
- `repair`: the whole of it

## Design notes

The peers are those seen before the repair, the node itself under its new registration, and an
inferred one for every lower number that was not seen. So a node never starts without the peers that
come before it.
-/

namespace ClusterVault

namespace Repair

/-- Whether an entry of the registry was left behind by a node: started under its name, or
    registered at its URL and never started. -/
def isStale (ownName : String) (ownUrl : Url) (m : Member) : Bool :=
  if m.isUnstarted then m.peerUrls.contains ownUrl else m.name = ownName

/-- The peers by name, each at the first of its URLs. Members that have not started, and those
    without a URL, do not count. Of two with one name the later counts. -/
def observed : List Member → Std.ExtTreeMap String Peer → Std.ExtTreeMap String Peer
  | [], peers => peers
  | m :: rest, peers =>
    if m.isUnstarted then observed rest peers
    else match m.peerUrls with
      | [] => observed rest peers
      | url :: _ => observed rest (peers.insert m.name ⟨m.name, url, m.id⟩)

/-- Adds an inferred peer for each number whose node was not seen. -/
def infer (names : ServiceNames) : List Nat → Std.ExtTreeMap String Peer →
    Except Url.ParseError (Std.ExtTreeMap String Peer)
  | [], peers => .ok peers
  | ordinal :: rest, peers =>
    let name := names.nodeName ordinal
    if peers.contains name then infer names rest peers
    else match names.peerUrl name with
      | .error e => .error e
      | .ok url => infer names rest (peers.insert name ⟨name, url, 0⟩)

/-- The peers that a node starts with, given the members seen before the repair and the new
    registration. -/
def peersAfter (names : ServiceNames) (ordinal : Nat) (own : Peer) (members : List Member) :
    Except Url.ParseError (List Peer) := do
  let peers := (observed members ∅).insert own.name own
  return (← infer names (List.range ordinal) peers).values

end Repair

variable {ε : Type}

/-- Removes members one after the other. -/
def removeMembers (bound : Duration) (client : Connection) : List Member → Procedure ε Unit
  | [] => pure ()
  | m :: rest => do
    let _ ← Procedure.boundedCall .removingMember bound
      (Activity.request (.manage client (.remove m.id)))
    removeMembers bound client rest

/-- Repairs the membership of a node and answers the peers to start with. -/
def repair (o : LaunchOptions) : Procedure ε (List Peer) := do
  match o.names.ordinal? o.nodeName with
  | none => throw (.nameWithoutOrdinal o.nodeName)
  | some ordinal =>
    let ownUrl ← Procedure.ofUrl (o.names.peerUrl o.nodeName)
    let config ← Procedure.ofUrl o.clientConfig
    let bound := o.memberTimeout
    let client ← Procedure.boundedCall .connecting bound (Activity.request (.connect config))
    let members : List Member ← Procedure.boundedCall .listingMembers bound
      (Activity.request (.manage client .list))
    removeMembers bound client (members.filter (Repair.isStale o.nodeName ownUrl))
    let added : Member ← Procedure.boundedCall .addingMember bound
      (Activity.request (.manage client (.add [ownUrl])))
    Procedure.ofUrl
      (Repair.peersAfter o.names ordinal ⟨o.nodeName, ownUrl, added.id⟩ members)

end ClusterVault
