import Pets.Calculator.Safety

set_option autoImplicit false

namespace Pets.Calculator

open Pets.Decimal Pets.Transition

end Pets.Calculator
