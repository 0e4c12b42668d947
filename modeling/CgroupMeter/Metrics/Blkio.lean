import CgroupMeter.Stat.Blkio

/-!
# Block I/O metrics

Block I/O metrics are the sums of one sample's counts over all devices, apart
for reads and writes.  The name of an operation counts in any mixture of upper
and lower case.
-/

namespace CgroupMeter

/-- Block I/O metrics of a container. -/
structure BlkioMetrics where
  readBytes : Counter
  writeBytes : Counter
  readOps : Counter
  writeOps : Counter
  deriving DecidableEq

namespace BlkioMetrics

/-- Two names are equal but for the case of ASCII letters. -/
def sameName (left right : String) : Bool :=
  left.toList.map Char.toLower == right.toList.map Char.toLower

/-- The sum of the counts of one operation. -/
def total (operation : String) (entries : List BlkioEntry) : Counter :=
  Counter.sum
    ((entries.filter fun entry => sameName entry.operation operation).map
      BlkioEntry.value)

/-- The block I/O metrics of a sample. -/
def ofStat (stat : BlkioStat) : BlkioMetrics :=
  { readBytes := total BlkioStat.readOperation stat.serviceBytes
    writeBytes := total BlkioStat.writeOperation stat.serviceBytes
    readOps := total BlkioStat.readOperation stat.serviced
    writeOps := total BlkioStat.writeOperation stat.serviced }

end BlkioMetrics

end CgroupMeter
