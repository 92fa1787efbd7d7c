import KernelSymbols.Fragment
import KernelSymbols.Reader

set_option autoImplicit false

namespace KernelSymbols

structure Generation where
  outcome : Outcome
  output : Text
  tally : Tally

namespace Generation

def ofCollector : Collector × Outcome → Generation
  | (collector, .ok ()) => ⟨.ok (), Fragment.text collector.table, collector.tally⟩
  | (collector, .error error) => ⟨.error error, [], collector.tally⟩

def ofBytes (excludes : Text → Bool) (bytes : Bytes) : Generation :=
  ofCollector (({} : Collector).readBytes excludes bytes)

end Generation

end KernelSymbols
