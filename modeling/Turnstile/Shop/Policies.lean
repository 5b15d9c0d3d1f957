import Turnstile.Settings.Basic

/-!
The policies of the shop's guarded operations.
-/

namespace Turnstile.Shop

/-- One policy for each guarded operation. -/
structure Policies where
  payments : Policy
  slowPayments : Policy
  refunds : Policy
  orders : Policy
  cancellations : Policy
  subscriptions : Policy
  vouchers : Policy

namespace Policies

/-- The policies that the settings describe. Repeated subscriptions are refused, everything else is
replayed. -/
def of (s : GuardSettings) : Policies where
  payments := s.policyFor "payments" .returnCached
  slowPayments := s.policyFor "payments_slow" .returnCached
  refunds := s.policyFor "refunds" .returnCached
  orders := s.policyFor "orders" .returnCached
  cancellations := s.policyFor "order_cancellations" .returnCached
  subscriptions := s.policyFor "subscriptions" .reject
  vouchers := s.policyFor "vouchers" .returnCached

/-- The policies in their order. -/
def toList (p : Policies) : List Policy :=
  [p.payments, p.slowPayments, p.refunds, p.orders, p.cancellations, p.subscriptions, p.vouchers]

end Policies

end Turnstile.Shop
