import TableAsm.Proofs.Assembly.Outcomes
import TableAsm.Proofs.Assembly.Places

namespace TableAsm

end TableAsm
