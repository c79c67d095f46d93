import SolidStudy.Main
import SolidStudy.Proofs.CommandLine.Polling
import SolidStudy.Proofs.CommandLine.Service
import SolidStudy.Proofs.Diagnostics.Linewise
import SolidStudy.Proofs.Extraction.Provenance
import SolidStudy.Proofs.Extraction.Realization
import SolidStudy.Proofs.Inventory.Exchange
import SolidStudy.Proofs.Inventory.Refusal
import SolidStudy.Proofs.Polyhedron.Stray
import SolidStudy.Proofs.Report.Json
import SolidStudy.Proofs.Settings
import SolidStudy.Proofs.Study.Saved
