/-!
# Arithmetic modulo a number

Residues are natural numbers below the modulus.  Powers are computed by squaring, so that
exponents of cryptographic size are no problem; inverses modulo a prime are powers.
-/

namespace RevocationCheck.Modular

/-- The power of a number modulo `m`. -/
def pow (m base exponent : Nat) : Nat :=
  if _h : exponent = 0 then 1 % m
  else
    let half := pow m (base * base % m) (exponent / 2)
    if exponent % 2 = 1 then base * half % m else half
termination_by exponent
decreasing_by omega

/-- Subtraction modulo `m`. -/
def sub (m a b : Nat) : Nat := (a + (m - b % m)) % m

/-- The inverse of a number modulo a prime; zero has the inverse zero. -/
def inverse (prime a : Nat) : Nat := pow prime a (prime - 2)

end RevocationCheck.Modular
