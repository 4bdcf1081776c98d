import CgroupLimits.Files.Tree
import CgroupLimits.Main
import CgroupLimits.Proofs.Files.LineIsolation
import CgroupLimits.Proofs.Group.Containment
import CgroupLimits.Proofs.Group.Unified
import CgroupLimits.Proofs.Mount.LineGrammar
import CgroupLimits.Proofs.Mount.TableRoundTrip
import CgroupLimits.Proofs.Mount.Reversal
import CgroupLimits.Proofs.Text.Blanks
import CgroupLimits.Proofs.Binary64.Rounding
import CgroupLimits.Proofs.Binary64.IntegerQuotient
import CgroupLimits.Proofs.Limit.FirstLine
import CgroupLimits.Proofs.Limit.CpuCount
import CgroupLimits.Proofs.Text.Lossy
import CgroupLimits.Proofs.Mount.PathReplacement
import CgroupLimits.Proofs.Group.Unrelated
import CgroupLimits.Proofs.Group.OrderIndependence
import CgroupLimits.Proofs.Limit.QuotaFiles
import CgroupLimits.Proofs.Limit.VersionAgreement
import CgroupLimits.Proofs.Limit.MemoryCeiling
import CgroupLimits.Proofs.Files.TableFaults
import CgroupLimits.Proofs.Group.Precedence
import CgroupLimits.Proofs.Report.Listing
import CgroupLimits.Proofs.Report.Stages
import CgroupLimits.Proofs.Mount.Descent
import CgroupLimits.Proofs.Text.NumeralFault
import CgroupLimits.Proofs.Mount.Refusal
import CgroupLimits.Proofs.Text.Escapes
import CgroupLimits.Proofs.Group.EntryRoundTrip
import CgroupLimits.Proofs.Limit.FileStates
import CgroupLimits.Proofs.Limit.CpuMaxFile
import CgroupLimits.Proofs.Limit.QuotaBranches
import CgroupLimits.Proofs.Binary64.Order
import CgroupLimits.Proofs.Binary64.Value
import CgroupLimits.Proofs.Limit.CountOrder
import CgroupLimits.Proofs.Limit.UsableQuota
import CgroupLimits.Proofs.Limit.QuotaPatterns
import CgroupLimits.Proofs.Limit.LaterLines
import CgroupLimits.Proofs.Limit.MemoryVersions
import CgroupLimits.Proofs.Report.Controllers
import CgroupLimits.Proofs.Path.Composition
import CgroupLimits.Proofs.Mount.TwoCuts
import CgroupLimits.Proofs.Text.Quotation
import CgroupLimits.Proofs.Group.Messages
import CgroupLimits.Proofs.Files.Writing
import CgroupLimits.Proofs.Limit.Wording
