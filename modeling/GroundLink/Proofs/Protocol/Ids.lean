import GroundLink.Proofs.Schema.Recovery
import GroundLink.Protocol.Ids

/-!
# Identifiers that are read again

The number of a request and that of a call are read from what they are written as.
-/

namespace GroundLink.Protocol

open Schema

variable {depth : Nat}

lemma RequestId.read_json (id : RequestId) : read id.json = .ok id := by
  change (uint64 (.nat id.val.toNat)).map mk = .ok id
  rw [uint64_nat]
  rfl

lemma CallId.read_json (c : CallId) : read c.json = .ok c := by
  change (uint64 (.nat c.val.toNat)).map mk = .ok c
  rw [uint64_nat]
  rfl

lemma RequestId.read_faithful : RequestId.read.Faithful depth RequestId.json :=
  faithful_map uint64_faithful fun _ => rfl

lemma CallId.read_faithful : CallId.read.Faithful depth CallId.json :=
  faithful_map uint64_faithful fun _ => rfl

end GroundLink.Protocol
