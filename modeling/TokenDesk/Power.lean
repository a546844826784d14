/-!
Powers with a natural exponent. The one operation that `^` stands for in every module is chosen
here, so that a definition means the same wherever other operations of that name are known.
-/

namespace TokenDesk

instance (priority := 1100) natPow : Pow Nat Nat := instPowNat

end TokenDesk
