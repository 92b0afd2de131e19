import VariablePay.Proofs.Agreement
import VariablePay.Proofs.Run.Cases
import VariablePay.Proofs.Store.Logged
import VariablePay.Store.Memory

set_option autoImplicit false

/-!
# The calls of a run

Whatever a store answers, the calls of a run follow one protocol: the record of the batch that
starts, the loads in order up to the first that fails, the commit, and then either densities and
signals or the record of a batch that has failed.
-/

namespace VariablePay

namespace RunRequest

end RunRequest

namespace Store

end Store

namespace Store

open Activity

variable {σ α ε : Type}

end Store

namespace MemoryStore

open Activity

end MemoryStore

end VariablePay
