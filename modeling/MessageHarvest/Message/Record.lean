import MessageHarvest.Text.Basic

namespace MessageHarvest

structure MessageRecord where
  message : Text
  domain : Text
  file : Text
  line : Option Nat
  deriving Repr, DecidableEq

end MessageHarvest
