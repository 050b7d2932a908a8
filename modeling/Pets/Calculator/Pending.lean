import Pets.Calculator.Chain

set_option autoImplicit false

namespace Pets.Calculator

open Pets.Decimal Pets.Transition

end Pets.Calculator
