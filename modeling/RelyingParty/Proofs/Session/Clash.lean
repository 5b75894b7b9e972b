import Mathlib.Data.List.Basic
import RelyingParty.Proofs.Session.History

/-! When a manager finds a cursor in its way: where it makes one and another is stored for its URL,
and never where it hands out an endpoint. -/

namespace RelyingParty

variable {σ ε : Type} {codec : EndpointCodec ε} {manager : Manager}

namespace Manager

section NextEnds

variable {refuses : Access → Prop} {found : Except Fault (Text × List ε)} {before after : Values}

end NextEnds

end Manager

namespace Session

variable (session : Session σ) (codec : EndpointCodec ε) (manager : Manager) (state : σ)

end Session

end RelyingParty
